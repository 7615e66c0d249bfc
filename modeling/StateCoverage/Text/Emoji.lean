import StateCoverage.Text.Blank
import StateCoverage.Text.EmojiTable

/-!
Emoji written by name: `:heart:` is shown as the emoji. A name may say how it is to be drawn, as in
`:heart-text:`; a name that is not known stays as it is.
-/
namespace StateCoverage.Emoji

def selectors : List (String × CodePoint) := [("-text", '\uFE0E'), ("-emoji", '\uFE0F')]

def lookup? (name : Text) : Option Text :=
  match selectors.find? fun (ending, _) => Text.endsWith (text ending) name with
  | some (ending, selector) =>
    (named.lookup (Text.lowerAscii (name.take (name.length - ending.length)))).map (· ++ [selector])
  | none => named.lookup (Text.lowerAscii name)

def shownName (name : Text) : Text := (lookup? name).getD (text ":" ++ name ++ text ":")

/-- Replaces the names in a text. `name?` is what was read since an open colon, last first; a blank
shows that the colon was no start of a name. -/
def replaceFrom (name? : Option Text) : Text → Text
  | [] => (name?.map fun name => text ":" ++ name.reverse).getD []
  | p :: rest =>
    match name? with
    | none => if p.isChar ':' then replaceFrom (some []) rest else p :: replaceFrom none rest
    | some name =>
      if p.isChar ':' then shownName name.reverse ++ replaceFrom none rest
      else if p.isBlank then text ":" ++ name.reverse ++ p :: replaceFrom none rest
      else replaceFrom (some (p :: name)) rest

def replace (t : Text) : Text := replaceFrom none t

end StateCoverage.Emoji
