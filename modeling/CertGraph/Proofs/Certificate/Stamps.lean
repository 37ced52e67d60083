import CertGraph.Certificate.Reading
import CertGraph.Proofs.Text.Digits
import CertGraph.Proofs.Time.Calendar

/- Instants are read back from certificates, in the short form and in the long one. -/
set_option autoImplicit false
set_option relaxedAutoImplicit false

namespace CertGraph

open CertGraph.Text (paddedDigits)
open CertGraph.Time (Date Instant)

namespace Stamp

def IsAscii (chars : List Char) : Prop :=
  ∀ c ∈ chars, c.toNat < 128

theorem ofNat_ofAscii {chars : List Char} (ascii : IsAscii chars) :
    (Octets.ofAscii chars).map (fun octet => Char.ofNat octet.toNat) = chars := by
  induction chars with
  | nil => rfl
  | cons c chars ih =>
    have small := ascii c List.mem_cons_self
    have octet : (UInt8.ofNat c.toNat).toNat = c.toNat := by
      rw [UInt8.toNat_ofNat']
      omega
    have rest := ih fun other member => ascii other (List.mem_cons_of_mem _ member)
    simp only [Octets.ofAscii, List.map_cons, octet, Char.ofNat_toNat] at rest ⊢
    rw [rest]

private theorem isAscii_paddedDigits (width n : Nat) : IsAscii (paddedDigits 10 width n) := by
  intro c member
  obtain ⟨value, small, rfl⟩ := Text.mem_paddedDigits (by decide) member
  rw [Nat.toNat_digitChar_of_lt_ten small]
  omega

private theorem takeNumber?_paddedDigits {width n : Nat} (positive : 0 < width) (fits : n < 10 ^ width)
    (rest : List Char) :
    takeNumber? width (paddedDigits 10 width n ++ rest) = some (n, rest) := by
  have length := Text.length_paddedDigits positive fits
  have value := @Text.natOfDigits?_paddedDigits 10 (by decide) (by decide) width n
  rw [takeNumber?, List.take_left' length, List.drop_left' length, value]
  rfl

/-- Month, day and time of the day, two digits each. -/
def tailDigits (date : Date) (second : Nat) : List Char :=
  paddedDigits 10 2 date.month ++ (paddedDigits 10 2 date.day ++
    (paddedDigits 10 2 (second / 3600) ++ (paddedDigits 10 2 (second / 60 % 60) ++
      (paddedDigits 10 2 (second % 60) ++ ['Z']))))

private theorem readTail?_tailDigits {date : Date} {second : Nat} (valid : date.isValid = true)
    (inDay : second < Time.Duration.secondsPerDay) :
    readTail? date.year (tailDigits date second) = some (Instant.ofDate date second 0) := by
  have lengths := Date.getD_monthLengths_le date.year (date.month - 1)
  have bounds := valid
  simp only [Date.isValid, Bool.and_eq_true, decide_eq_true_eq] at bounds
  have seconds : second < 86400 := inDay
  have whole : (second / 3600 * 60 + second / 60 % 60) * 60 + second % 60 = second := by omega
  have month : date.month < 10 ^ 2 := by omega
  have day : date.day < 10 ^ 2 := by omega
  have hour : second / 3600 < 10 ^ 2 := by omega
  have minute : second / 60 % 60 < 10 ^ 2 := by omega
  have rest : second % 60 < 10 ^ 2 := by omega
  have inClock : second / 3600 < 24 ∧ second / 60 % 60 < 60 ∧ second % 60 < 60 := by omega
  simp only [readTail?, tailDigits, bind, Option.bind, takeNumber?_paddedDigits two_pos month,
    takeNumber?_paddedDigits two_pos day, takeNumber?_paddedDigits two_pos hour,
    takeNumber?_paddedDigits two_pos minute, takeNumber?_paddedDigits two_pos rest, whole]
  exact if_pos ⟨trivial, valid, inClock⟩

private theorem toList_compactTail (instant : Instant) :
    instant.compactTail.toList = tailDigits instant.date instant.secondOfDay := by
  simp [Instant.compactTail, Instant.clockText, tailDigits, Text.padded, String.toList_append]

private theorem isAscii_tailDigits (date : Date) (second : Nat) : IsAscii (tailDigits date second) := by
  intro c member
  simp only [tailDigits, List.mem_append] at member
  rcases member with member | member | member | member | member | member
  · exact isAscii_paddedDigits 2 _ c member
  · exact isAscii_paddedDigits 2 _ c member
  · exact isAscii_paddedDigits 2 _ c member
  · exact isAscii_paddedDigits 2 _ c member
  · exact isAscii_paddedDigits 2 _ c member
  · rw [List.mem_singleton.mp member]
    decide

private theorem ofDate_date {instant : Instant} (whole : instant.truncated = instant) :
    Instant.ofDate instant.date instant.secondOfDay 0 = instant := by
  have seconds := congrArg Instant.micros whole
  have day : instant.date.toDay = instant.seconds / Time.Duration.secondsPerDay :=
    Date.toDay_ofDay _
  have parts : instant.seconds / Time.Duration.secondsPerDay * Time.Duration.secondsPerDay +
      instant.secondOfDay = instant.seconds := Nat.div_add_mod' _ _
  rw [Instant.ofDate, day, parts, Nat.add_zero]
  exact whole

/-- An instant within the years that certificates can tell is read back from its stamp. -/
theorem ofElement?_ofInstant {instant : Instant} (whole : instant.truncated = instant)
    (early : 1950 ≤ instant.date.year) (late : instant.date.year ≤ 9999) :
    ofElement? (ofInstant instant).element = some (ofInstant instant) := by
  have valid : instant.date.isValid = true := Date.isValid_ofDay _ late
  have inDay : instant.secondOfDay < Time.Duration.secondsPerDay :=
    Nat.mod_lt _ (by decide)
  have tail := readTail?_tailDigits valid inDay
  rw [ofDate_date whole] at tail
  have longYearDigits : instant.date.year < 10 ^ 4 := by omega
  have shortYearDigits : instant.date.year % 100 < 10 ^ 2 := by omega
  have isAscii {digits : List Char} (ascii : IsAscii digits) :
      IsAscii (digits ++ tailDigits instant.date instant.secondOfDay) := by
    intro c member
    rcases List.mem_append.mp member with inYear | inTail
    · exact ascii c inYear
    · exact isAscii_tailDigits _ _ c inTail
  by_cases isLong : 2050 ≤ instant.date.year
  · have text : instant.longText.toList = paddedDigits 10 4 instant.date.year ++
        tailDigits instant.date instant.secondOfDay := by
      simp [Instant.longText, Text.padded, toList_compactTail, String.toList_append]
    have form : ofInstant instant = ⟨instant, true⟩ := by simp [ofInstant, longYear, isLong]
    have chars := ofNat_ofAscii (isAscii (isAscii_paddedDigits 4 instant.date.year))
    rw [form, element, if_pos rfl, ofElement?]
    simp only [asciiOf, text, chars, bind, Option.bind,
      takeNumber?_paddedDigits four_pos longYearDigits, tail]
    rfl
  · have text : instant.shortText.toList = paddedDigits 10 2 (instant.date.year % 100) ++
        tailDigits instant.date instant.secondOfDay := by
      simp [Instant.shortText, Text.padded, toList_compactTail, String.toList_append]
    have form : ofInstant instant = ⟨instant, false⟩ := by simp [ofInstant, longYear, isLong]
    have chars := ofNat_ofAscii (isAscii (isAscii_paddedDigits 2 (instant.date.year % 100)))
    have year : (if instant.date.year % 100 < 50 then 2000 + instant.date.year % 100
        else 1900 + instant.date.year % 100) = instant.date.year := by
      split <;> omega
    rw [form, element, if_neg Bool.false_ne_true, ofElement?]
    simp only [asciiOf, text, chars, bind, Option.bind,
      takeNumber?_paddedDigits two_pos shortYearDigits, year, tail]
    rfl

end Stamp

end CertGraph
