import CertGraph.Armor.Block
import CertGraph.Proofs.Armor.Base64

/- Armored octets are found again, block after block. -/
set_option autoImplicit false
set_option relaxedAutoImplicit false

namespace CertGraph.Armor

section Searching

variable {first : UInt8} {tail before : Octets}

private theorem seek_mark (mark left rest : Octets) :
    seek mark left (left ++ rest) = some (left, rest) := by
  induction left with
  | nil => cases rest <;> rfl
  | cons awaited left ih =>
    simp only [List.cons_append, seek, if_true, ih]
    rfl

private theorem seek_pass (unlike : first ∉ before) (rest : Octets) :
    seek (first :: tail) (first :: tail) (before ++ rest) =
      (seek (first :: tail) (first :: tail) rest).map fun found =>
        (before ++ found.1, found.2) := by
  induction before with
  | nil =>
    rw [List.nil_append]
    exact Option.map_id'.symm
  | cons octet before ih =>
    have apart : octet ≠ first := fun same => unlike (same ▸ List.mem_cons_self)
    have rests := ih fun member => unlike (List.mem_cons_of_mem _ member)
    simp only [List.cons_append, seek, if_neg apart, rests]
    cases seek (first :: tail) (first :: tail) rest <;> rfl

/-- However much of the mark has been found, other octets make the search start anew. -/
private theorem seek_restart (unlike : first ∉ before) (isNonempty : before ≠ []) (left rest : Octets) :
    seek (first :: tail) (first :: left) (before ++ rest) =
      (seek (first :: tail) (first :: tail) rest).map fun found =>
        (before ++ found.1, found.2) := by
  cases before with
  | nil => exact absurd rfl isNonempty
  | cons octet before =>
    have apart : octet ≠ first := fun same => unlike (same ▸ List.mem_cons_self)
    have rests := @seek_pass first tail before
      (fun member => unlike (List.mem_cons_of_mem _ member)) rest
    simp only [List.cons_append, seek, if_neg apart, rests]
    cases seek (first :: tail) (first :: tail) rest <;> rfl

private theorem seek_none (unlike : first ∉ before) (left : Octets) :
    seek (first :: tail) (first :: left) before = none := by
  cases before with
  | nil => rfl
  | cons octet before =>
    have passed := @seek_restart first tail _ unlike (List.cons_ne_nil octet before) left []
    rw [List.append_nil] at passed
    rw [passed]
    rfl

private theorem splitAt?_eq {mark : Octets} (isFirst : mark = first :: tail) (unlike : first ∉ before)
    (rest : Octets) : splitAt? mark (before ++ (mark ++ rest)) = some (before, rest) := by
  subst isFirst
  rw [splitAt?, seek_pass unlike, seek_mark]
  simp [bind]

end Searching

section Lines

variable {width count : Nat} {digits : Octets}

private theorem mem_lines {octet : UInt8} (member : octet ∈ lines width count digits) :
    octet = newline ∨ octet ∈ digits := by
  induction count generalizing digits with
  | zero => cases member
  | succ count ih =>
    rw [lines] at member
    split at member
    · cases member
    · rcases List.mem_append.mp member with inLine | member
      · exact .inr (List.mem_of_mem_take inLine)
      · rcases List.mem_cons.mp member with isEnd | inRest
        · exact .inl isEnd
        · exact (ih inRest).imp_right List.mem_of_mem_drop

private theorem mem_of_head?_lines (positive : 0 < width) {octet : UInt8}
    (isHead : octet ∈ (lines width count digits).head?) : octet ∈ digits := by
  cases count with
  | zero => cases isHead
  | succ count =>
    rw [lines] at isHead
    split at isHead
    · cases isHead
    · rename_i isNonempty
      obtain ⟨head, rest, rfl⟩ := List.exists_cons_of_ne_nil isNonempty
      obtain ⟨less, rfl⟩ := Nat.exists_eq_succ_of_ne_zero (Nat.ne_of_gt positive)
      cases isHead
      exact List.mem_cons_self

/-- No two ends of lines follow each other. -/
private theorem seek_lines (positive : 0 < width) (unlike : newline ∉ digits) (left : Octets) :
    seek [newline, newline] (newline :: left) (lines width count digits) = none := by
  induction count generalizing digits left with
  | zero => rfl
  | succ count ih =>
    rw [lines]
    split
    · rfl
    · rename_i isNonempty
      have line : digits.take width ≠ [] := by
        simpa [List.take_eq_nil_iff, isNonempty] using Nat.ne_of_gt positive
      have outside : newline ∉ digits.take width := fun member =>
        unlike (List.mem_of_mem_take member)
      have rests := @ih (digits.drop width) (fun member => unlike (List.mem_of_mem_drop member)) []
      rw [seek_restart outside line]
      simp only [seek, if_true, rests]
      rfl

private theorem splitBody_lines (positive : 0 < width) (unlike : newline ∉ digits)
    (noReturn : (13 : UInt8) ∉ digits) :
    splitBody (lines width count digits) = ([], lines width count digits) := by
  have noReturnLines : (13 : UInt8) ∉ lines width count digits := by
    intro member
    rcases mem_lines member with isEnd | inDigits
    · cases isEnd
    · exact noReturn inDigits
  have short : splitAt? [newline, newline] (lines width count digits) = none := by
    rw [splitAt?, seek_lines positive unlike]
    rfl
  have long : splitAt? (longNewline ++ longNewline) (lines width count digits) = none := by
    have searched : seek (longNewline ++ longNewline) (longNewline ++ longNewline)
        (lines width count digits) = none := seek_none noReturnLines _
    rw [splitAt?, searched]
    rfl
  rw [splitBody, short, long]
  rfl

end Lines

section Blanks

/-- No blank starts with the octet. -/
def Solid (octet : UInt8) : Prop :=
  ∀ form ∈ blankForms, form.head? ≠ some octet

instance (octet : UInt8) : Decidable (Solid octet) :=
  inferInstanceAs (Decidable (∀ form ∈ blankForms, _))

private theorem blankForms_ne_nil : ∀ form ∈ blankForms, form ≠ [] := by
  decide +kernel

private theorem solid_digit {value : Nat} (small : value < 64) : Solid (Base64.digit value) := by
  have all : ∀ value < 64, Solid (Base64.digit value) := by decide +kernel
  exact all value small

private theorem solid_of_mem_encode {octets : Octets} {octet : UInt8}
    (member : octet ∈ Base64.encode octets) : Solid octet := by
  rcases Base64.mem_encode member with rfl | ⟨value, small, rfl⟩
  · decide +kernel
  · exact solid_digit small

private theorem find?_forms_eq_none {forms : List Octets} {octet : UInt8}
    (unlike : ∀ form ∈ forms, form ≠ [] ∧ form.head? ≠ some octet) (rest : Octets) :
    forms.find? (fun form => form.isPrefixOf (octet :: rest)) = none := by
  rw [List.find?_eq_none]
  intro form member isPrefix
  obtain ⟨isNonempty, other⟩ := unlike form member
  cases form with
  | nil => exact isNonempty rfl
  | cons head others =>
    rw [List.isPrefixOf_iff_prefix, List.cons_prefix_cons] at isPrefix
    exact other (congrArg some isPrefix.1)

private theorem dropBlanks_solid {octet : UInt8} (solid : Solid octet) (rest : Octets) :
    dropBlanks 0 (octet :: rest) = octet :: dropBlanks 0 rest := by
  have unfound := find?_forms_eq_none (fun form member =>
    ⟨blankForms_ne_nil form member, solid form member⟩) rest
  rw [dropBlanks, unfound]

private theorem dropBlanks_append {digits : Octets} (solid : ∀ octet ∈ digits, Solid octet)
    (rest : Octets) : dropBlanks 0 (digits ++ rest) = digits ++ dropBlanks 0 rest := by
  induction digits with
  | nil => rfl
  | cons octet digits ih =>
    rw [List.cons_append, dropBlanks_solid (solid octet List.mem_cons_self),
      ih fun other member => solid other (List.mem_cons_of_mem _ member)]
    rfl

private theorem dropBlanks_newline (rest : Octets) :
    dropBlanks 0 (newline :: rest) = dropBlanks 0 rest := by
  have silent : ∀ form ∈ blankForms.takeWhile (· ≠ [newline]),
      form ≠ [] ∧ form.head? ≠ some newline := by decide +kernel
  have split : blankForms = blankForms.takeWhile (· ≠ [newline]) ++
      [newline] :: (blankForms.dropWhile (· ≠ [newline])).tail := by decide +kernel
  have found : blankForms.find? (fun form => form.isPrefixOf (newline :: rest)) =
      some [newline] := by
    rw [split, List.find?_append, find?_forms_eq_none silent]
    simp
  rw [dropBlanks, found]
  rfl

private theorem dropBlanks_lines {width count : Nat} {digits : Octets} (positive : 0 < width)
    (enough : digits.length ≤ count) (solid : ∀ octet ∈ digits, Solid octet) :
    dropBlanks 0 (lines width count digits) = digits := by
  induction count generalizing digits with
  | zero =>
    obtain rfl := List.eq_nil_of_length_eq_zero (Nat.le_zero.mp enough)
    rfl
  | succ count ih =>
    rw [lines]
    split
    · rename_i isEmpty
      rw [isEmpty]
      rfl
    · rename_i isNonempty
      have some_digits : 0 < digits.length := List.length_pos_iff.mpr isNonempty
      have fewer : (digits.drop width).length ≤ count := by
        rw [List.length_drop]
        omega
      rw [dropBlanks_append fun octet member => solid octet (List.mem_of_mem_take member),
        dropBlanks_newline,
        ih fewer fun octet member => solid octet (List.mem_of_mem_drop member),
        List.take_append_drop]

end Blanks

/-- The label can be told from the dashes around it. -/
def IsLabel (label : Octets) : Prop :=
  label ≠ [] ∧ (45 : UInt8) ∉ label

instance (label : Octets) : Decidable (IsLabel label) :=
  inferInstanceAs (Decidable (_ ∧ _))

private theorem skipSpace_eq {text : Octets} (solid : ∀ octet ∈ text.head?, Solid octet) :
    skipSpace text = text := by
  cases text with
  | nil => rfl
  | cons octet rest =>
    have isSolid := solid octet rfl
    have apart : ∀ space ∈ [32, 9, 10, 13], octet ≠ space := by
      have blanks : ∀ space ∈ [32, 9, 10, 13], ¬ Solid space := by decide +kernel
      rintro space member rfl
      exact blanks octet member isSolid
    have spared : (octet = 32 || octet = 9 || octet = 10 || octet = 13) = false := by
      simpa [and_assoc] using apart
    rw [skipSpace, List.dropWhile_cons, spared]
    rfl

private theorem blockOf?_lines {label contents digits : Octets} (isLabel : IsLabel label)
    (encoded : Base64.encode contents = digits) :
    blockOf? label (lines 64 digits.length digits) label = some ⟨label, [], contents⟩ := by
  have solid : ∀ octet ∈ digits, Solid octet := fun octet member =>
    solid_of_mem_encode (encoded ▸ member)
  have noBlank {octet : UInt8} (blank : ¬ Solid octet) : octet ∉ digits := fun member =>
    blank (solid octet member)
  have split : splitBody (lines 64 digits.length digits) = ([], lines 64 digits.length digits) :=
    splitBody_lines (by decide) (noBlank (by decide +kernel)) (noBlank (by decide +kernel))
  have plain : dropBlanks 0 (lines 64 digits.length digits) = digits :=
    dropBlanks_lines (by decide) (Nat.le_refl _) solid
  have headers : (textLines []).mapM headerOf? = some [] := rfl
  have decoded : Base64.decode? digits = some contents := encoded ▸ Base64.decode?_encode contents
  simp only [blockOf?, split, plain, headers, decoded, isLabel.1, ne_eq, not_false_eq_true,
    and_self, if_true]
  rfl

private theorem dash_not_mem_lines {contents digits : Octets}
    (encoded : Base64.encode contents = digits)
    (width count : Nat) : (45 : UInt8) ∉ lines width count digits := by
  intro member
  rcases mem_lines member with isEnd | inDigits
  · cases isEnd
  · rw [← encoded] at inDigits
    rcases Base64.mem_encode inDigits with isFiller | ⟨value, small, isDigit⟩
    · cases isFiller
    · have apart : ∀ value < 64, (45 : UInt8) ≠ Base64.digit value := by decide
      exact apart value small isDigit

private theorem skipSpace_lines {contents digits : Octets} (encoded : Base64.encode contents = digits)
    (count : Nat) (more : Octets) :
    skipSpace (newline :: (lines 64 count digits ++ (endMark ++ more))) =
      lines 64 count digits ++ (endMark ++ more) := by
  have passed : skipSpace (newline :: (lines 64 count digits ++ (endMark ++ more))) =
      skipSpace (lines 64 count digits ++ (endMark ++ more)) := rfl
  rw [passed]
  refine skipSpace_eq fun octet isHead => ?_
  rw [List.head?_append] at isHead
  cases inLines : (lines 64 count digits).head? with
  | none =>
    rw [inLines] at isHead
    cases isHead
    decide +kernel
  | some head =>
    rw [inLines] at isHead
    cases isHead
    have inDigits := mem_of_head?_lines (by decide) inLines
    exact solid_of_mem_encode (encoded ▸ inDigits)

/-- An armored block is the next one found, whatever follows it. -/
theorem nextBlock?_armored {label : Octets} (isLabel : IsLabel label) (contents rest : Octets) :
    nextBlock? (armored label contents ++ rest) =
      some (some ⟨label, [], contents⟩, skipSpace rest) := by
  have written : armored label contents ++ rest =
      [] ++ (beginMark ++ (label ++ (dashes ++ (newline ::
        (lines 64 (Base64.encode contents).length (Base64.encode contents) ++
          (endMark ++ (label ++ (dashes ++ (newline :: rest))))))))) := by
    simp [armored]
  generalize encoded : Base64.encode contents = digits at written
  have opened (more : Octets) : splitAt? beginMark ([] ++ (beginMark ++ more)) = some ([], more) :=
    splitAt?_eq rfl List.not_mem_nil more
  have labelled (more : Octets) : splitAt? dashes (label ++ (dashes ++ more)) = some (label, more) :=
    splitAt?_eq rfl isLabel.2 more
  have closed (more : Octets) : splitAt? endMark
      (lines 64 digits.length digits ++ (endMark ++ more)) =
        some (lines 64 digits.length digits, more) :=
    splitAt?_eq rfl (dash_not_mem_lines encoded _ _) more
  have passed : skipSpace (newline :: rest) = skipSpace rest := rfl
  rw [nextBlock?, written, opened]
  simp only [bind, Option.bind, labelled, skipSpace_lines encoded, closed,
    blockOf?_lines isLabel encoded, passed]

/-- Armored blocks one after the other. -/
def armoredAll (blocks : List (Octets × Octets)) : Octets :=
  blocks.flatMap fun block => armored block.1 block.2

private theorem skipSpace_armoredAll (blocks : List (Octets × Octets)) :
    skipSpace (armoredAll blocks) = armoredAll blocks := by
  refine skipSpace_eq fun octet isHead => ?_
  cases blocks with
  | nil => cases isHead
  | cons block blocks =>
    cases isHead
    decide +kernel

theorem readBlocks?_armoredAll {blocks : List (Octets × Octets)} {count : Nat}
    (labels : ∀ block ∈ blocks, IsLabel block.1) (enough : blocks.length ≤ count) :
    readBlocks? count (armoredAll blocks) =
      some (blocks.map fun block => ⟨block.1, [], block.2⟩) := by
  induction blocks generalizing count with
  | nil => cases count <;> rfl
  | cons block blocks ih =>
    cases count with
    | zero => cases enough
    | succ count =>
      have split : armoredAll (block :: blocks) = armored block.1 block.2 ++ armoredAll blocks := rfl
      have rest := @ih count (fun other member => labels other (List.mem_cons_of_mem _ member))
        (Nat.le_of_succ_le_succ enough)
      rw [readBlocks?, split, nextBlock?_armored (labels block List.mem_cons_self),
        skipSpace_armoredAll]
      simp only [bind, Option.bind, rest, List.map_cons]

theorem length_le_armoredAll (blocks : List (Octets × Octets)) :
    blocks.length ≤ (armoredAll blocks).length := by
  induction blocks with
  | nil => exact Nat.le_refl 0
  | cons block blocks ih =>
    have split : armoredAll (block :: blocks) = armored block.1 block.2 ++ armoredAll blocks := rfl
    have some_octets : 0 < (armored block.1 block.2).length := by
      rw [armored, List.length_append]
      exact Nat.add_pos_right _ Nat.one_pos
    rw [split, List.length_append, List.length_cons]
    omega

/-- In a text of armored blocks alone the first with one of the labels is found. -/
theorem findBlock?_armoredAll {blocks : List (Octets × Octets)}
    (isLabel : ∀ block ∈ blocks, IsLabel block.1) (labels : List Octets) :
    findBlock? labels (armoredAll blocks) =
      (blocks.find? fun block => labels.contains block.1).map fun block =>
        ⟨block.1, [], block.2⟩ := by
  rw [findBlock?, readBlocks?_armoredAll isLabel (length_le_armoredAll blocks)]
  simp only [bind, Option.bind, List.find?_map]
  rfl

end CertGraph.Armor
