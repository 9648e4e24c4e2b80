namespace GatedPipeline.Text

/-- A text of bytes has one character for each byte, which is below 256. -/
def encoded (s : String) : String :=
  String.ofList (s.toUTF8.toList.map fun b => Char.ofNat b.toNat)

/-- The text whose bytes are given; none if they are the bytes of no text. -/
def decoded? (s : String) : Option String :=
  String.fromUTF8? ⟨(s.toList.map fun c => UInt8.ofNat c.toNat).toArray⟩

def byteSize (s : List Char) : Nat := (String.ofList s).utf8ByteSize

@[simp] theorem byteSize_append (s t : List Char) : byteSize (s ++ t) = byteSize s + byteSize t := by
  rw [byteSize, String.ofList_append, String.utf8ByteSize_append]
  rfl

theorem byteSize_cons (c : Char) (s : List Char) : byteSize (c :: s) = c.utf8Size + byteSize s := by
  rw [← List.singleton_append, byteSize_append]
  congr 1
  simp [byteSize]

theorem byteSize_eq_zero_iff {s : List Char} : byteSize s = 0 ↔ s = [] := by
  rw [byteSize, String.utf8ByteSize_eq_zero_iff, String.ofList_eq_empty_iff]

def hexValue? (c : Char) : Option Nat :=
  if '0' ≤ c ∧ c ≤ '9' then some (c.toNat - 48)
  else if 'a' ≤ c ∧ c ≤ 'f' then some (c.toNat - 87)
  else if 'A' ≤ c ∧ c ≤ 'F' then some (c.toNat - 55)
  else none

def isHexDigit (c : Char) : Bool := (hexValue? c).isSome

/-- The digit for a number below sixteen, in lower case. -/
def hexDigit (n : Nat) : Char := (Nat.toDigits 16 n).headD '0'

/-- The number that a text of hexadecimal digits stands for; none if some character is no digit. -/
def hexNumber? (s : List Char) : Option Nat :=
  s.foldl (fun r c => r.bind fun n => (hexValue? c).map (n * 16 + ·)) (some 0)

/-- The lowest `width` digits of a number, the highest first. -/
def hexDigits (n : Nat) : Nat → List Char
  | 0 => []
  | width + 1 => hexDigits (n / 16) width ++ [hexDigit (n % 16)]

end GatedPipeline.Text
