import Fiction.Text.Fragment

/-!
# Fiction.Markup.Segment

What markup consists of: text, calls and links. Nothing in them is expanded yet.
-/

namespace Fiction

/-- A call such as `(name~ argument ~ argument)`. -/
structure Call where
  /-- The name of what is called. -/
  name : String
  /-- The arguments as they are written. -/
  args : List Fragment
  /-- The whole call with its parentheses. -/
  source : Fragment
deriving Repr, DecidableEq, Inhabited

/-- The range of a call. -/
def Call.span (c : Call) : Span :=
  c.source.span

/-- A link such as `[[label|target|commands]]`. -/
structure LinkText where
  /-- What the reader sees. -/
  label : Fragment
  /-- Where the link leads. -/
  target : Fragment
  /-- What happens on the way. -/
  traversal : Option Fragment
  /-- The range of the whole link. -/
  span : Span
deriving Repr, DecidableEq, Inhabited

/-- A piece of markup. -/
inductive Segment where
  | text (f : Fragment)
  | call (c : Call)
  | link (l : LinkText)
deriving Repr, DecidableEq

end Fiction
