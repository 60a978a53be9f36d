import GoXref.Text.Basic

/-!
# `GoXref.Text.Line`: lines and the breaks that end them

A document is cut after every line break. A carriage return and the line
feed right behind it are one break. Every other break is one character: LF,
CR, vertical tab, form feed, NEL, LS or PS. The text after the last break
is a line too, so there is one line more than there are breaks, and the
empty text has one empty line.

* `Text.lines`: the lines in order, each with its own break.
* `Text.flatten_lines`: one after the other they are the text.
* `Text.content`: a line without the break characters at its end.
-/

set_option autoImplicit false

namespace GoXref.Text

/-- Whether the character can end a line. -/
def isBreak (c : Char) : Bool :=
  c = '\n' || c = '\r' || c = '\x0b' || c = '\x0c' || c = '\u0085' || c = '\u2028' || c = '\u2029'

/-- The lines of a text, each with the break that ends it. -/
def lines : Text → List Text
  | [] => [[]]
  | '\r' :: '\n' :: rest => ['\r', '\n'] :: lines rest
  | c :: rest =>
    if isBreak c then [c] :: lines rest
    -- `c` belongs to the first line of the rest, and there is always one.
    else (lines rest).modifyHead (c :: ·)

/-- There is always a line. -/
theorem lines_ne_nil (t : Text) : lines t ≠ [] := by
  fun_induction lines t <;> simp_all

/-- The lines one after the other are the text. -/
theorem flatten_lines (t : Text) : (lines t).flatten = t := by
  fun_induction lines t with
  | case1 => rfl
  | case2 rest ih => simp [ih]
  | case3 c rest _ _ ih => simp [ih]
  | case4 c rest _ _ ih =>
    cases h : lines rest with
    | nil => exact absurd h (lines_ne_nil rest)
    | cons line more =>
      have hrest : line ++ more.flatten = rest := by simpa [h] using ih
      simp [hrest]

/-- A line without the break characters at its end. -/
def content (line : Text) : Text := (line.reverse.dropWhile isBreak).reverse

end GoXref.Text
