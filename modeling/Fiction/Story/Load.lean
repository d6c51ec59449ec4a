import Fiction.Story.Manuscript
import Fiction.Story.Record

/-!
# Fiction.Story.Load

Reading a story in whatever form it is written.

`Story.parse` reads manuscripts and data, and tells them apart by their first characters if it is
not told which form to expect.
-/

namespace Fiction

/-- The forms of stories. -/
inductive StoryForm where
  | manuscript
  | data
deriving Repr, DecidableEq, Inhabited

namespace Story

/-- The form of a text: data starts with a brace and a quoted key. -/
def formOf (s : String) : StoryForm :=
  match Text.trimStart s.toList with
  | '{' :: rest =>
      match Text.trimStart rest with
      | '"' :: _ => .data
      | _ => .manuscript
  | _ => .manuscript

/-- Reads a story in a given form, or in the form that its text shows. -/
def parse (form : Option StoryForm) (source : Source) : Except Fault Story :=
  match form.getD (formOf source.text) with
  | .manuscript => Manuscript.parse source
  | .data => Record.parse source

end Story

end Fiction
