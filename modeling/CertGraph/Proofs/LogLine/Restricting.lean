import CertGraph.Proofs.LogLine.Members

/- What leaves the program in a log line: only members on the list, the level of the record, and nothing
that depends on attributes that are not shown. -/
set_option autoImplicit false
set_option relaxedAutoImplicit false

namespace CertGraph.LogLine

open CertGraph.Time (Instant)

/-! ### The object of a record, put together -/

/-- All that a record has to show, once its parts are known. -/
def assembled (fields : List String) (record : Record) (message : String) (own : Members)
    (instant : Instant) : Members :=
  let named := putAll [] (fields.map fun name => (name, attributeOf record message name))
  put (putAll (putAll named own) (keeping (isExtra fields) record.extra)) "timestamp"
    (.text instant.isoText)

private theorem exists_of_bind_ok {φ α β : Type} {first : Except φ α} {next : α → Except φ β}
    {value : β}
    (ended : (first >>= next) = .ok value) :
    ∃ middle, first = .ok middle ∧ next middle = .ok value := by
  cases first with
  | error fault => cases ended
  | ok middle => exact ⟨middle, rfl, ended⟩

/-- The object of a record is made of its message, the members of that, and its time. -/
theorem membersOf_eq (format : String) (record : Record) :
    membersOf format record =
      if isValidFormat format then (do
        let message ← record.messageText
        let own ← messageMembers record
        let instant ← record.instant
        .ok (restricted (renamed (assembled (formatFields format) record message own instant))))
      else .error (.invalidFormat format) := by
  unfold membersOf
  split
  · simp only [allMembers, bind_assoc]
    rfl
  · rfl

private theorem membersOf_ok_iff {format : String} {record : Record} {members : Members} :
    membersOf format record = .ok members ↔
      isValidFormat format = true ∧ ∃ message own instant, record.messageText = .ok message ∧
        messageMembers record = .ok own ∧ record.instant = .ok instant ∧
        members = restricted
          (renamed (assembled (formatFields format) record message own instant)) := by
  rw [membersOf_eq]
  constructor
  · intro shown
    split at shown
    · rename_i valid
      obtain ⟨message, filled, shown⟩ := exists_of_bind_ok shown
      obtain ⟨own, told, shown⟩ := exists_of_bind_ok shown
      obtain ⟨instant, dated, shown⟩ := exists_of_bind_ok shown
      exact ⟨valid, message, own, instant, filled, told, dated, (Except.ok.inj shown).symm⟩
    · cases shown
  · rintro ⟨valid, message, own, instant, filled, told, dated, rfl⟩
    rw [if_pos valid, filled, told, dated]
    rfl

section Assembled

variable {fields : List String} {record : Record} {message : String} {own members : Members}
  {instant : Instant} {name : String} {value : Json}

private theorem nodup_assembled :
    (namesOf (assembled fields record message own instant)).Nodup := by
  have named : (namesOf (putAll [] (fields.map fun name =>
      (name, attributeOf record message name)))).Nodup := nodup_putAll List.nodup_nil
  exact nodup_put (nodup_putAll (nodup_putAll named))

/-- A message that is no object has no members of its own but the text of an exception. -/
private theorem messageMembers_of_plain (plain : ∀ members, record.loggedMessage ≠ .object members) :
    messageMembers record = record.checkException.map fun _ =>
      if record.notedException.isSomething then [("exc_info", record.notedException)] else [] := by
  unfold messageMembers
  split
  · exact absurd ‹_› (plain _)
  · cases record.checkException with
    | error fault => rfl
    | ok _ =>
      have missing : valueOf? [] "exc_info" = none := rfl
      simp only [missing, Option.map_none, Option.getD_none, Bool.false_eq_true, if_false, Except.map]
      split <;> rfl

private theorem valueOf?_own (plain : ∀ members, record.loggedMessage ≠ .object members)
    (told : messageMembers record = .ok own) (unlike : name ≠ "exc_info") :
    valueOf? own name = none := by
  have short : own = [] ∨ ∃ text, own = [("exc_info", text)] := by
    rw [messageMembers_of_plain plain] at told
    cases checked : record.checkException with
    | error fault =>
      rw [checked] at told
      cases told
    | ok _ =>
      rw [checked] at told
      have made := (Except.ok.inj told).symm
      split at made
      · exact .inr ⟨_, made⟩
      · exact .inl made
  rcases short with rfl | ⟨text, rfl⟩
  · rfl
  · rw [valueOf?_cons, if_neg unlike.symm]
    rfl

private theorem valueOf?_fields (fields : List String) (record : Record) (message name : String) :
    valueOf? (fields.map fun name => (name, attributeOf record message name)) name =
      if name ∈ fields then some (attributeOf record message name) else none := by
  induction fields with
  | nil => rfl
  | cons field fields ih =>
    rw [List.map_cons, valueOf?_cons, ih]
    by_cases later : name ∈ fields
    · simp [later]
    · by_cases same : field = name
      · subst same
        simp [later]
      · simp [same, later, Ne.symm same]

private theorem valueOf?_keeping_none {keep : String → Bool} (left : keep name = false) :
    valueOf? (keeping keep members) name = none := by
  refine valueOf?_eq_none.mpr fun member => ?_
  have kept := (mem_namesOf_keeping.mp member).2
  rw [left] at kept
  cases kept

/-- Which members there are, besides the time and the text of an exception, where the message has none of
its own: extra attributes, and those that the format names. -/
private theorem mem_assembled (plain : ∀ members, record.loggedMessage ≠ .object members)
    (told : messageMembers record = .ok own) (notTime : name ≠ "timestamp")
    (notException : name ≠ "exc_info") :
    (name, value) ∈ assembled fields record message own instant ↔
      valueOf? (keeping (isExtra fields) record.extra) name = some value ∨
        valueOf? (keeping (isExtra fields) record.extra) name = none ∧
          name ∈ fields ∧ attributeOf record message name = value := by
  have unnamed : (name, value) ∈ ([] : Members) ↔ False := by simp
  simp only [assembled, mem_put, mem_putAll, valueOf?_own plain told notException,
    valueOf?_fields, unnamed, Prod.mk.injEq, notTime, false_and, false_or, ne_eq, not_false_eq_true,
    and_true, true_and, and_false, or_false, reduceCtorEq]
  simp

/-- The name of a record's level; an extra attribute may stand for it. -/
def levelShown (record : Record) : Json :=
  record.extraOr "levelname" (.text (levelName record.level))

private theorem levelname_mem_assembled (plain : ∀ members, record.loggedMessage ≠ .object members)
    (told : messageMembers record = .ok own) :
    ("levelname", value) ∈ assembled fields record message own instant ↔
      "levelname" ∈ fields ∧ value = levelShown record := by
  have notExtra : isExtra fields "levelname" = false := by
    have standard : standardAttributes.contains "levelname" = true := by decide
    simp only [isExtra, standard, Bool.not_true, Bool.and_false, Bool.false_and]
  have given : attributeOf record message "levelname" = levelShown record := rfl
  rw [mem_assembled plain told (by decide) (by decide), valueOf?_keeping_none notExtra, given]
  simp [eq_comm]

private theorem asset_mem_assembled (plain : ∀ members, record.loggedMessage ≠ .object members)
    (told : messageMembers record = .ok own)
    (attached : valueOf? record.extra "asset" = some value) :
    ("asset", value) ∈ assembled fields record message own instant := by
  rw [mem_assembled plain told (by decide) (by decide)]
  by_cases named : "asset" ∈ fields
  · have notExtra : isExtra fields "asset" = false := by simp [isExtra, named]
    have given : attributeOf record message "asset" = value := by
      have own : attributeOf record message "asset" = record.extraOr "asset" .null := rfl
      rw [own, Record.extraOr, attached, Option.getD_some]
    exact .inr ⟨valueOf?_keeping_none notExtra, named, given⟩
  · have extra : isExtra fields "asset" = true := by
      have unlike : "asset" ∉ standardAttributes := by decide
      simp [isExtra, named, unlike]
    rw [valueOf?_keeping extra]
    exact .inl attached

end Assembled

/-! ### Renaming and restricting -/

section Renamed

variable {members : Members} {name : String} {value : Json}

private theorem nodup_keeping {keep : String → Bool} (nodup : (namesOf members).Nodup) :
    (namesOf (keeping keep members)).Nodup :=
  List.Sublist.nodup (List.Sublist.map Prod.fst List.filter_sublist) nodup

/-- All members but the level under its long name. -/
private theorem renamed_eq (members : Members) :
    renamed members = match valueOf? members "levelname" with
      | some value => put (keeping (· ≠ "levelname") members) "level" value
      | none => members := rfl

private theorem nodup_renamed (nodup : (namesOf members).Nodup) :
    (namesOf (renamed members)).Nodup := by
  rw [renamed_eq]
  split
  · exact nodup_put (nodup_keeping nodup)
  · exact nodup

/-- The level comes under its short name, whatever stood there. -/
private theorem level_mem_renamed (nodup : (namesOf members).Nodup) {level : Json}
    (there : ("levelname", level) ∈ members) :
    ("level", value) ∈ renamed members ↔ value = level := by
  rw [renamed_eq, (valueOf?_eq_some_iff nodup).mpr there]
  simp [mem_put]

private theorem mem_renamed (notLevel : name ≠ "level") (notLong : name ≠ "levelname") :
    (name, value) ∈ renamed members ↔ (name, value) ∈ members := by
  rw [renamed_eq]
  split
  · simp [mem_put, keeping, notLevel, notLong]
  · rfl

private theorem mem_restricted {entry : String × Json} :
    entry ∈ restricted members ↔ entry ∈ members ∧ entry.1 ∈ allowedFields := by
  rw [restricted, List.mem_filter, List.contains_iff_mem]

end Renamed

/-! ### What a line does not depend on -/

section Unseen

/-- The names under which an extra attribute may matter: those of members that may leave the program, and
those of attributes that every record has. -/
def isVisible (name : String) : Bool :=
  allowedFields.contains name || standardAttributes.contains name

/-- The names of members that may leave the program, and of the one that does so under another name. -/
def isKept (name : String) : Bool :=
  allowedFields.contains name || name = "levelname"

private theorem isVisible_of_isKept {name : String} (kept : isKept name = true) :
    isVisible name = true := by
  rcases (Bool.or_eq_true _ _).mp kept with allowed | isLevel
  · exact (Bool.or_eq_true _ _).mpr (.inl allowed)
  · rw [of_decide_eq_true isLevel]
    decide

private theorem keeping_keeping (first second : String → Bool) (members : Members) :
    keeping first (keeping second members) =
      keeping (fun name => first name && second name) members :=
  List.filter_filter

private theorem keeping_comm (first second : String → Bool) (members : Members) :
    keeping first (keeping second members) = keeping second (keeping first members) := by
  simp only [keeping_keeping, Bool.and_comm]

private theorem keeping_of_imp {first second : String → Bool}
    (within : ∀ name, first name = true → second name = true) (members : Members) :
    keeping first (keeping second members) = keeping first members := by
  rw [keeping_keeping]
  refine List.filter_congr fun entry _ => ?_
  cases held : first entry.1 with
  | false => simp only [held, Bool.false_and]
  | true => simp only [held, within _ held, Bool.true_and]

private theorem restricted_eq (members : Members) :
    restricted members = keeping allowedFields.contains members :=
  rfl

private theorem restricted_renamed_keeping (members : Members) :
    restricted (renamed (keeping isKept members)) = restricted (renamed members) := by
  have longKept : isKept "levelname" = true := by decide
  have allowedKept : ∀ name, allowedFields.contains name = true → isKept name = true :=
    fun name allowed => (Bool.or_eq_true _ _).mpr (.inl allowed)
  rw [renamed_eq, renamed_eq, valueOf?_keeping longKept]
  cases valueOf? members "levelname" with
  | none => exact keeping_of_imp allowedKept members
  | some value =>
    have rest : keeping allowedFields.contains (keeping (· ≠ "levelname") (keeping isKept members)) =
        keeping allowedFields.contains (keeping (· ≠ "levelname") members) := by
      rw [keeping_comm _ isKept, keeping_of_imp allowedKept]
    rw [restricted_eq, restricted_eq, keeping_put, keeping_put, rest]

variable {record : Record} {extra : Members}

/-- The record with other extra attributes. -/
def Record.withExtra (record : Record) (extra : Members) : Record :=
  { record with extra }

private theorem valueOf?_of_agree (agree : keeping isVisible extra = keeping isVisible record.extra)
    {name : String} (visible : isVisible name = true) :
    valueOf? extra name = valueOf? record.extra name := by
  rw [← valueOf?_keeping visible, agree, valueOf?_keeping visible]

private theorem extraOr_withExtra (agree : keeping isVisible extra = keeping isVisible record.extra)
    {name : String} (visible : isVisible name = true) (own : Json) :
    (record.withExtra extra).extraOr name own = record.extraOr name own := by
  have same : valueOf? (record.withExtra extra).extra name = valueOf? record.extra name :=
    valueOf?_of_agree agree visible
  rw [Record.extraOr, same, Record.extraOr]

private theorem messageText_withExtra
    (agree : keeping isVisible extra = keeping isVisible record.extra) :
    (record.withExtra extra).messageText = record.messageText := by
  have template : (record.withExtra extra).loggedMessage = record.loggedMessage :=
    extraOr_withExtra agree (by decide) _
  have values : (record.withExtra extra).loggedValues = record.loggedValues := by
    have same : valueOf? (record.withExtra extra).extra "args" = valueOf? record.extra "args" :=
      valueOf?_of_agree agree (by decide)
    simp only [Record.loggedValues, same]
    rfl
  simp only [Record.messageText, template, values]

private theorem messageMembers_withExtra
    (agree : keeping isVisible extra = keeping isVisible record.extra) :
    messageMembers (record.withExtra extra) = messageMembers record := by
  have template : (record.withExtra extra).loggedMessage = record.loggedMessage :=
    extraOr_withExtra agree (by decide) _
  have exception : (record.withExtra extra).checkException = record.checkException := by
    have visible : isVisible "exc_info" = true := by decide
    simp only [Record.checkException, extraOr_withExtra agree visible]
  have noted : (record.withExtra extra).notedException = record.notedException :=
    extraOr_withExtra agree (by decide) _
  simp only [messageMembers, template, exception, noted]

private theorem instant_withExtra (agree : keeping isVisible extra = keeping isVisible record.extra) :
    (record.withExtra extra).instant = record.instant := by
  have visible : isVisible "created" = true := by decide
  exact congrArg instantOf (extraOr_withExtra agree visible record.created)

private theorem attributeOf_withExtra (agree : keeping isVisible extra = keeping isVisible record.extra)
    {name : String} (visible : isVisible name = true) (message : String) :
    attributeOf (record.withExtra extra) message name = attributeOf record message name := by
  unfold attributeOf
  split
  · rfl
  · exact extraOr_withExtra agree visible _

/-- What is kept of all members only depends on attributes that may matter. -/
private theorem keeping_assembled (agree : keeping isVisible extra = keeping isVisible record.extra)
    (fields : List String) (message : String) (own : Members) (instant : Instant) :
    keeping isKept (assembled fields (record.withExtra extra) message own instant) =
      keeping isKept (assembled fields record message own instant) := by
  have named : keeping isKept (fields.map fun name =>
      (name, attributeOf (record.withExtra extra) message name)) =
      keeping isKept (fields.map fun name => (name, attributeOf record message name)) := by
    simp only [keeping, List.filter_map]
    refine List.map_congr_left fun name member => ?_
    have kept : isKept name = true := (List.mem_filter.mp member).2
    rw [attributeOf_withExtra agree (isVisible_of_isKept kept)]
  have extras : keeping isKept (keeping (isExtra fields) extra) =
      keeping isKept (keeping (isExtra fields) record.extra) := by
    have within (name : String) (kept : isKept name = true) : isVisible name = true :=
      isVisible_of_isKept kept
    rw [keeping_comm, keeping_comm isKept, ← keeping_of_imp within extra,
      ← keeping_of_imp within record.extra, agree]
  have given : (record.withExtra extra).extra = extra := rfl
  simp only [assembled, keeping_put, keeping_putAll, named, extras, given]

/-- Other extra attributes make no difference where they agree in all that may matter. -/
theorem membersOf_withExtra (agree : keeping isVisible extra = keeping isVisible record.extra)
    (format : String) :
    membersOf format (record.withExtra extra) = membersOf format record := by
  have same (fields : List String) (message : String) (own : Members) (instant : Instant) :
      restricted (renamed (assembled fields (record.withExtra extra) message own instant)) =
        restricted (renamed (assembled fields record message own instant)) := by
    rw [← restricted_renamed_keeping, keeping_assembled agree, restricted_renamed_keeping]
  simp only [membersOf_eq, messageText_withExtra agree, messageMembers_withExtra agree,
    instant_withExtra agree, same]

end Unseen

/-- When there is an object for a record whose message is none itself. -/
private theorem exists_membersOf_iff {format : String} {record : Record}
    (plain : ∀ members, record.loggedMessage ≠ .object members) :
    (∃ members, membersOf format record = .ok members) ↔
      isValidFormat format = true ∧ (∃ message, record.messageText = .ok message) ∧
        record.checkException = .ok () ∧ ∃ instant, record.instant = .ok instant := by
  have checked : (∃ own, messageMembers record = .ok own) ↔ record.checkException = .ok () := by
    rw [messageMembers_of_plain plain]
    cases record.checkException with
    | error fault => simp [Except.map]
    | ok _ => simp [Except.map]
  rw [← checked]
  constructor
  · rintro ⟨members, shown⟩
    obtain ⟨valid, message, own, instant, filled, told, dated, -⟩ := membersOf_ok_iff.mp shown
    exact ⟨valid, ⟨message, filled⟩, ⟨own, told⟩, instant, dated⟩
  · rintro ⟨valid, ⟨message, filled⟩, ⟨own, told⟩, instant, dated⟩
    exact ⟨_, membersOf_ok_iff.mpr ⟨valid, message, own, instant, filled, told, dated, rfl⟩⟩

/-- The line of a record whose message is no object, by a format that names the level. There is one as
soon as the message can be filled in, an exception is given as its parts, and the time can be shown. Its
members are on the list and have different names; the level is that of the record, whatever extra
attributes are called; an attached asset is there with its value. With other extra attributes that agree
under the names on the list and those of attributes that every record has, the line is the same. -/
theorem membersOf_confined (format : String) (record : Record)
    (named : "levelname" ∈ formatFields format)
    (plain : ∀ members, record.loggedMessage ≠ .object members) :
    ((∃ members, membersOf format record = .ok members) ↔
      isValidFormat format = true ∧ (∃ message, record.messageText = .ok message) ∧
        record.checkException = .ok () ∧ ∃ instant, record.instant = .ok instant) ∧
    (∀ members, membersOf format record = .ok members →
      (∀ entry ∈ members, entry.1 ∈ allowedFields) ∧ (members.map Prod.fst).Nodup ∧
      (∀ value, ("level", value) ∈ members ↔
        value = record.extraOr "levelname" (.text (levelName record.level))) ∧
      ∀ value, valueOf? record.extra "asset" = some value → ("asset", value) ∈ members) ∧
    ∀ extra, keeping isVisible extra = keeping isVisible record.extra →
      membersOf format { record with extra } = membersOf format record ∧
        lineOf format { record with extra } = lineOf format record := by
  refine ⟨exists_membersOf_iff plain, fun members shown => ?_, fun extra agree => ?_⟩
  · obtain ⟨-, message, own, instant, -, told, -, rfl⟩ := membersOf_ok_iff.mp shown
    have nodup : (namesOf (assembled (formatFields format) record message own instant)).Nodup :=
      nodup_assembled
    have level : ("levelname", levelShown record) ∈
        assembled (formatFields format) record message own instant :=
      (levelname_mem_assembled plain told).mpr ⟨named, rfl⟩
    refine ⟨fun entry member => (mem_restricted.mp member).2, nodup_keeping (nodup_renamed nodup),
      fun value => ?_, fun value attached => ?_⟩
    · have listed : "level" ∈ allowedFields := by decide
      rw [mem_restricted, level_mem_renamed nodup level]
      exact and_iff_left listed
    · have listed : "asset" ∈ allowedFields := by decide
      have kept : ("asset", value) ∈
          assembled (formatFields format) record message own instant :=
        asset_mem_assembled plain told attached
      exact mem_restricted.mpr ⟨(mem_renamed (by decide) (by decide)).mpr kept, listed⟩
  · have same := membersOf_withExtra agree format
    exact ⟨same, congrArg (fun shown => shown.map fun members => (Json.object members).render) same⟩

/-- A report about an asset, with an attribute that claims to be the level and one that is not on the
list. -/
def disguised : Record where
  message := .text "Generating %s"
  values := .several [.text "Certificate (kube-ca)"]
  level := 20
  function := .text "resolve"
  line := .int 42
  created := .int 1704067200
  exceptionText := .null
  extra := [("level", .text "DEBUG"), ("hostname", .text "node-1"), ("asset", .text "kube-ca")]

/-- The same report without the name of the host. -/
def unhosted : Members :=
  [("level", .text "DEBUG"), ("asset", .text "kube-ca")]

/-- By the usual format the report is of level `INFO` and about its asset, and the line would be the same
without the name of the host. -/
theorem disguised_confined :
    (∃ members, membersOf defaultFormat disguised = .ok members ∧
      (∀ entry ∈ members, entry.1 ∈ allowedFields) ∧ ("level", .text "INFO") ∈ members ∧
      ("asset", .text "kube-ca") ∈ members) ∧
    lineOf defaultFormat { disguised with extra := unhosted } =
      lineOf defaultFormat disguised := by
  obtain ⟨emitted, shown, unseen⟩ := membersOf_confined defaultFormat disguised (by decide) nofun
  have exists_of_isOk {φ α : Type} {result : Except φ α} (isOk : result.isOk = true) :
      ∃ value, result = .ok value := by
    cases result with
    | error fault => cases isOk
    | ok value => exact ⟨value, rfl⟩
  obtain ⟨members, given⟩ := emitted.mpr
    ⟨by decide +kernel, exists_of_isOk (by decide +kernel), rfl, exists_of_isOk (by decide +kernel)⟩
  obtain ⟨listed, -, level, asset⟩ := shown members given
  have same := (unseen unhosted rfl).2
  exact ⟨⟨members, given, listed, (level _).mpr rfl, asset _ rfl⟩, same⟩

end CertGraph.LogLine
