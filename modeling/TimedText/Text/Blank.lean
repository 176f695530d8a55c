/-!
# White space

The characters that separate words and attributes, and the trimming of a text at both ends.  The set
is the one that Unicode calls white space, together with the four information separators U+001C to
U+001F.  It holds twenty-nine characters; zero-width ones are not among them.
-/

namespace TimedText.Text

/-- Membership in the set of white-space characters. -/
def isBlank (char : Char) : Bool :=
  let code := char.toNat
  (0x09 ≤ code && code ≤ 0x0D)
    || (0x1C ≤ code && code ≤ 0x20)
    || code == 0x85
    || code == 0xA0
    || code == 0x1680
    || (0x2000 ≤ code && code ≤ 0x200A)
    || code == 0x2028
    || code == 0x2029
    || code == 0x202F
    || code == 0x205F
    || code == 0x3000

/-- The text without the white space at its start. -/
def trimStart (text : List Char) : List Char :=
  text.dropWhile isBlank

/-- The text without the white space at its end. -/
def trimEnd (text : List Char) : List Char :=
  (trimStart text.reverse).reverse

/-- The text without the white space at either end. -/
def trim (text : List Char) : List Char :=
  trimEnd (trimStart text)

/-- The string without the white space at either end. -/
def trimmed (text : String) : String :=
  String.ofList (trim text.toList)

/-- Trimming the start of a text leaves no white space there. -/
theorem head_trimStart
    (text : List Char)
    (head : Char)
    (rest : List Char)
    (equal : trimStart text = head :: rest) :
    isBlank head = false := by
  induction text with
  | nil => simp [trimStart] at equal
  | cons first tail hypothesis =>
      by_cases blank : isBlank first = true
      · exact hypothesis (by simpa [trimStart, blank] using equal)
      · have kept : first :: tail = head :: rest := by
          simpa [trimStart, blank] using equal
        cases kept
        simpa using blank

end TimedText.Text
