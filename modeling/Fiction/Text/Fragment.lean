import Fiction.Text.Blank

/-!
# Fiction.Text.Fragment

Pieces of a source text that remember where they stand in it.

* `Span` is a range of byte positions; `Span.join` is the least range over two.
* `Fragment` is a run of characters with the byte position of the first one.

Positions count the bytes of the UTF-8 form of the text, so a character moves a position by
its `Char.utf8Size`.
-/

namespace Fiction

namespace Text

/-- The number of bytes of the UTF-8 form of a text. -/
def byteLength : List Char → Nat
  | [] => 0
  | c :: cs => c.utf8Size + byteLength cs

@[simp] theorem byteLength_nil : byteLength [] = 0 := rfl

@[simp] theorem byteLength_cons (c : Char) (cs : List Char) :
    byteLength (c :: cs) = c.utf8Size + byteLength cs := rfl

@[simp] theorem byteLength_append (cs ds : List Char) :
    byteLength (cs ++ ds) = byteLength cs + byteLength ds := by
  induction cs with
  | nil => simp
  | cons c cs ih => simp [ih, Nat.add_assoc]

end Text

/-- A range of byte positions in a source text, `stop` excluded. -/
structure Span where
  /-- Position of the first byte. -/
  start : Nat
  /-- Position after the last byte. -/
  stop : Nat
deriving Repr, DecidableEq, Inhabited

/-- The least span that covers two spans. -/
def Span.join (a b : Span) : Span :=
  ⟨min a.start b.start, max a.stop b.stop⟩

/-- The empty span at a position. -/
def Span.at (pos : Nat) : Span :=
  ⟨pos, pos⟩

/-- A run of characters of a source text and the byte position it starts at. -/
structure Fragment where
  /-- Byte position of the first character in the source. -/
  offset : Nat
  /-- The characters themselves. -/
  chars : List Char
deriving Repr, DecidableEq, Inhabited

namespace Fragment

/-- The whole of a source text. -/
def ofString (s : String) : Fragment :=
  ⟨0, s.toList⟩

/-- The characters as a string. -/
def text (f : Fragment) : String :=
  String.ofList f.chars

/-- Byte position after the last character. -/
def stop (f : Fragment) : Nat :=
  f.offset + Text.byteLength f.chars

/-- The range of the source a fragment covers. -/
def span (f : Fragment) : Span :=
  ⟨f.offset, f.stop⟩

/-- A fragment of blanks only. -/
def isBlank (f : Fragment) : Bool :=
  Text.isEmptyText f.chars

/-- The fragment without the blanks at its ends. Only the blanks in front move its position. -/
def trim (f : Fragment) : Fragment :=
  ⟨f.offset + Text.byteLength (f.chars.takeWhile Text.isBlank), Text.trim f.chars⟩

end Fragment

end Fiction
