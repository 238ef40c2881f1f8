/-!
# White space

The characters with the Unicode property `White_Space`, trimming, and blank texts.  A text is
blank exactly when trimming leaves nothing of it.
-/

namespace BearerClient.Text

/-- Closed ranges of code points with the property `White_Space`, ascending and apart. -/
def blankRanges : List (Nat × Nat) :=
  [(0x09, 0x0D), (0x20, 0x20), (0x85, 0x85), (0xA0, 0xA0), (0x1680, 0x1680), (0x2000, 0x200A),
   (0x2028, 0x2029), (0x202F, 0x202F), (0x205F, 0x205F), (0x3000, 0x3000)]

/-- Whether a code point lies in one of some closed ranges. -/
def inRanges (ranges : List (Nat × Nat)) (point : Nat) : Bool :=
  ranges.any fun range => range.1 ≤ point && point ≤ range.2

/-- White space as Unicode counts it. -/
def isBlankChar (c : Char) : Bool := inRanges blankRanges c.toNat

/-- Removes characters from both ends for as long as they satisfy `drop`. -/
def trimBy (drop : Char → Bool) (chars : List Char) : List Char :=
  ((chars.dropWhile drop).reverse.dropWhile drop).reverse

/-- The text without white space at its ends. -/
def trim (text : String) : String := String.ofList (trimBy isBlankChar text.toList)

/-- A text of white space only. -/
def isBlank (text : String) : Bool := text.toList.all isBlankChar

/-- Nothing is left once every character satisfies `drop`. -/
theorem dropWhile_nil_iff {drop : Char → Bool} {chars : List Char} :
    chars.dropWhile drop = [] ↔ ∀ c ∈ chars, drop c = true := by
  induction chars with
  | nil => simp
  | cons c rest ih => by_cases h : drop c = true <;> simp [h, ih]

theorem trimBy_eq_nil_iff {drop : Char → Bool} {chars : List Char} :
    trimBy drop chars = [] ↔ ∀ c ∈ chars, drop c = true := by
  simp only [trimBy, List.reverse_eq_nil_iff, dropWhile_nil_iff, List.mem_reverse]
  constructor
  · intro h c hc
    rw [← List.takeWhile_append_dropWhile (p := drop) (l := chars)] at hc
    rcases List.mem_append.1 hc with hc | hc
    · exact List.all_eq_true.1 List.all_takeWhile c hc
    · exact h c hc
  · exact fun h c hc => h c ((List.dropWhile_sublist drop).mem hc)

theorem trim_eq_empty_iff {text : String} : trim text = "" ↔ isBlank text = true := by
  rw [isBlank, List.all_eq_true, ← trimBy_eq_nil_iff, trim, ← String.toList_inj]
  simp

/-- ASCII letters in lower case, all else unchanged. -/
def lowerAscii (text : String) : String := String.ofList (text.toList.map Char.toLower)

end BearerClient.Text
