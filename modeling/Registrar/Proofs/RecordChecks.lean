import Registrar.Registry.Service
import Mathlib.Data.List.TakeWhile

/-!
# The checks of records

What is let through as a new record has an identifier that may be stored, and a text that is not
blank; what is not let through is told which field fails.
-/

namespace Registrar

open Time

/-! ### Identifiers -/

namespace Text

theorem skipBlanks_front {front chars : List Char}
    (hfront : front <+: skipBlanks chars) : skipBlanks front = front := by
  cases front with
  | nil => rfl
  | cons c front =>
      obtain ⟨rest, hrest⟩ := hfront
      have hhead : isBlank c = false := by
        have hsome : (chars.dropWhile isBlank).head? = some c := by
          rw [show chars.dropWhile isBlank = c :: front ++ rest from hrest.symm]
          rfl
        simpa [hsome] using List.head?_dropWhile_not isBlank chars
      unfold skipBlanks
      rw [List.dropWhile_cons_of_neg (by simp [hhead])]

theorem trimChars_trimChars (chars : List Char) : trimChars (trimChars chars) = trimChars chars := by
  have hfront : trimChars chars <+: skipBlanks chars := by
    have hsuffix : skipBlanks (skipBlanks chars).reverse <:+ (skipBlanks chars).reverse :=
      List.dropWhile_suffix _
    simpa [trimChars] using List.reverse_prefix.mpr hsuffix
  have hback : skipBlanks (skipBlanks (skipBlanks chars).reverse)
      = skipBlanks (skipBlanks chars).reverse := skipBlanks_front (List.prefix_refl _)
  unfold trimChars at hfront ⊢
  rw [skipBlanks_front hfront, List.reverse_reverse, hback]

theorem trim_trim (text : String) : trim (trim text) = trim text := by
  unfold trim
  rw [String.toList_ofList, trimChars_trimChars]

theorem trim_eq_self {text : String} (hblank : ∀ c ∈ text.toList, isBlank c = false) :
    trim text = text := by
  have hkept : ∀ chars : List Char, (∀ c ∈ chars, isBlank c = false) → skipBlanks chars = chars :=
    fun chars hchars => List.dropWhile_eq_self_iff.mpr fun hpos => by
      simpa using hchars _ (List.getElem_mem hpos)
  unfold trim trimChars
  rw [hkept _ hblank, hkept _ fun c hc => hblank c (List.mem_reverse.mp hc), List.reverse_reverse,
    String.ofList_toList]

end Text

def isHexDigit (c : Char) : Bool :=
  ('0' ≤ c && c ≤ '9') || ('a' ≤ c && c ≤ 'f')

def IsUuid (text : String) : Prop :=
  (text.toList.map fun c => if isHexDigit c then '0' else c)
    = "00000000-0000-0000-0000-000000000000".toList

instance (text : String) : Decidable (IsUuid text) :=
  inferInstanceAs (Decidable (_ = _))

theorem isBlank_of_isHexDigit {c : Char} (hdigit : isHexDigit c = true) :
    Text.isBlank c = false := by
  have hrange : 0x30 ≤ c.toNat ∧ c.toNat ≤ 0x66 := by
    simp only [isHexDigit, Bool.or_eq_true, Bool.and_eq_true, decide_eq_true_eq] at hdigit
    rcases hdigit with ⟨hfirst, hlast⟩ | ⟨hfirst, hlast⟩
    · have hlow : 0x30 ≤ c.toNat := hfirst
      have hhigh : c.toNat ≤ 0x39 := hlast
      omega
    · have hlow : 0x61 ≤ c.toNat := hfirst
      have hhigh : c.toNat ≤ 0x66 := hlast
      omega
  unfold Text.isBlank
  rw [← Bool.not_eq_true]
  simp only [Bool.or_eq_true, Bool.and_eq_true, decide_eq_true_eq, beq_iff_eq]
  omega

theorem IsUuid.isBlank {text : String} (huuid : IsUuid text) :
    ∀ c ∈ text.toList, Text.isBlank c = false := by
  intro c hc
  have hshape : (if isHexDigit c then '0' else c) ∈ "00000000-0000-0000-0000-000000000000".toList :=
    huuid ▸ List.mem_map_of_mem hc
  have hshapes : ∀ d ∈ "00000000-0000-0000-0000-000000000000".toList, d = '0' ∨ d = '-' := by
    simp
  by_cases hdigit : isHexDigit c = true
  · exact isBlank_of_isHexDigit hdigit
  · rw [if_neg hdigit] at hshape
    rcases hshapes c hshape with rfl | rfl <;> decide

/-- Trimming leaves a generated identifier as it is, for it has no blanks. -/
theorem IsUuid.trimmed {text : String} (huuid : IsUuid text) : Text.trim text = text :=
  Text.trim_eq_self huuid.isBlank

theorem checkId_eq_ok_iff {id : String} : checkId id = .ok ()
    ↔ Text.isBlankText id = false ∧ id.utf8ByteSize ≤ maxIdBytes ∧ '/' ∉ id.toList := by
  unfold checkId
  split
  · next hblank => simp [hblank]
  · next hblank =>
      split
      · next hlong => simp [Nat.not_le.mpr hlong]
      · next hlong =>
          split
          · next hslash => simp [hslash]
          · next hslash => simp [hblank, hslash, Nat.not_lt.mp hlong]

structure StorableId (id : String) : Prop where
  nonblank : Text.isBlankText id = false
  trimmed : Text.trim id = id
  short : id.utf8ByteSize ≤ maxIdBytes
  slashless : '/' ∉ id.toList

/-! ### New records -/

section Records

variable {kind : ResourceKind}

/-- A new record passes the checks of its identifier and of its texts, or the first failing one refuses it. -/
theorem newRecord_eq (kind : ResourceKind) (draft : Draft) (generated : String) (now : Instant) :
    Registry.newRecord kind draft generated now
      = match checkId (Registry.chosenId draft generated),
          (Record.create kind (Registry.chosenId draft generated) draft
            now.toMicroseconds).validate with
        | .error fault, _ => .error fault
        | .ok (), .error fault => .error fault
        | .ok (), .ok () =>
          .ok (Record.create kind (Registry.chosenId draft generated) draft now.toMicroseconds) := by
  unfold Registry.newRecord
  dsimp only
  cases checkId (Registry.chosenId draft generated) with
  | error fault => rfl
  | ok done =>
      cases (Record.create kind (Registry.chosenId draft generated) draft
        now.toMicroseconds).validate <;> rfl

theorem newRecord_eq_ok_iff {draft : Draft} {generated : String} {now : Instant}
    {record : Record kind} : Registry.newRecord kind draft generated now = .ok record
      ↔ record = Record.create kind (Registry.chosenId draft generated) draft now.toMicroseconds
        ∧ checkId record.id = .ok () ∧ record.validate = .ok () := by
  rw [newRecord_eq]
  constructor
  · intro hnew
    split at hnew
    · contradiction
    · contradiction
    · next hid hvalid =>
        obtain rfl := Except.ok.inj hnew
        exact ⟨rfl, hid, hvalid⟩
  · rintro ⟨rfl, hid, hvalid⟩
    have hchosen : checkId (Registry.chosenId draft generated) = .ok () := hid
    rw [hchosen, hvalid]

theorem chosenId_trimmed {draft : Draft} {generated : String} (huuid : IsUuid generated) :
    Text.trim (Registry.chosenId draft generated) = Registry.chosenId draft generated := by
  unfold Registry.chosenId
  cases draft.id with
  | none => exact huuid.trimmed
  | some requested => exact Text.trim_trim requested

theorem storableId_of_newRecord {draft : Draft} {generated : String} {now : Instant}
    {record : Record kind} (hnew : Registry.newRecord kind draft generated now = .ok record)
    (huuid : IsUuid generated) : StorableId record.id := by
  obtain ⟨rfl, hid, -⟩ := newRecord_eq_ok_iff.mp hnew
  obtain ⟨hblank, hsize, hslash⟩ := checkId_eq_ok_iff.mp hid
  exact ⟨hblank, chosenId_trimmed huuid, hsize, hslash⟩

/-! ### Failing checks -/

theorem fault_of_checkId {id : String} {fault : RecordError} (hid : checkId id = .error fault) :
    ∃ reason, fault = .validation "id" reason := by
  unfold checkId at hid
  split at hid
  · exact ⟨_, (Except.error.inj hid).symm⟩
  · split at hid
    · exact ⟨_, (Except.error.inj hid).symm⟩
    · split at hid
      · exact ⟨_, (Except.error.inj hid).symm⟩
      · contradiction

theorem fault_of_checkText {field : String} {text : Option String} {fault : RecordError}
    (htext : checkText field text = .error fault) : ∃ reason, fault = .validation field reason := by
  unfold checkText at htext
  split at htext
  · contradiction
  · split at htext
    · exact ⟨_, (Except.error.inj htext).symm⟩
    · split at htext
      · exact ⟨_, (Except.error.inj htext).symm⟩
      · contradiction

/-- A label that a record may have: it is not blank and not too long, and the email of a user contains an at sign. -/
def AllowedLabel (kind : ResourceKind) (label : Option String) : Prop :=
  ∀ text ∈ label, Text.isBlankText text = false ∧ text.utf8ByteSize ≤ maxTextBytes
    ∧ (kind = .user → '@' ∈ text.toList)

theorem checkText_eq_ok_iff (field : String) (label : Option String) :
    checkText field label = .ok ()
      ↔ ∀ text ∈ label, Text.isBlankText text = false ∧ text.utf8ByteSize ≤ maxTextBytes := by
  cases label with
  | none => simp [checkText]
  | some text =>
      rw [checkText]
      split
      · next hblank => simp [hblank]
      · next hblank =>
          split
          · next hlong => simp [Nat.not_le.mpr hlong]
          · next hlong => simp [hblank, Nat.not_lt.mp hlong]

/-- The checks of a record are those of its label; nothing is asked of its description. -/
theorem Record.validate_eq_ok_iff {record : Record kind} :
    record.validate = .ok () ↔ AllowedLabel kind record.label := by
  have hchecked := checkText_eq_ok_iff kind.labelField record.label
  unfold validate
  cases htext : checkText kind.labelField record.label with
  | error fault =>
      refine iff_of_false nofun fun hallowed => ?_
      have hpassed := hchecked.mpr fun text hlabel =>
        ⟨(hallowed text hlabel).1, (hallowed text hlabel).2.1⟩
      rw [htext] at hpassed
      contradiction
  | ok done =>
      have hplain := hchecked.mp htext
      simp only [bind, Except.bind]
      split
      · next email hemail =>
          obtain ⟨hblank, hshort⟩ := hplain email hemail
          simp [AllowedLabel, hemail, hblank, hshort]
      · next hother =>
          refine iff_of_true rfl fun text hlabel => ?_
          obtain ⟨hblank, hshort⟩ := hplain text hlabel
          exact ⟨hblank, hshort, fun huser => (hother text huser hlabel).elim⟩

/-- The only text that a record is checked for is its label. -/
theorem Record.fault_of_validate {record : Record kind} {fault : RecordError}
    (hinvalid : record.validate = .error fault) :
    ∃ reason, fault = .validation kind.labelField reason := by
  unfold validate at hinvalid
  cases htext : checkText kind.labelField record.label with
  | error other =>
      rw [htext] at hinvalid
      obtain rfl := Except.error.inj hinvalid
      exact fault_of_checkText htext
  | ok done =>
      simp only [htext, bind, Except.bind] at hinvalid
      split at hinvalid
      · split at hinvalid
        · contradiction
        · exact ⟨_, (Except.error.inj hinvalid).symm⟩
      · contradiction

theorem fault_of_newRecord {draft : Draft} {generated : String} {now : Instant}
    {fault : RecordError} (hnew : Registry.newRecord kind draft generated now = .error fault) :
    ∃ field reason, fault = .validation field reason := by
  rw [newRecord_eq] at hnew
  split at hnew
  · next hid =>
      obtain rfl := Except.error.inj hnew
      exact ⟨_, fault_of_checkId hid⟩
  · next hvalid =>
      obtain rfl := Except.error.inj hnew
      exact ⟨_, Record.fault_of_validate hvalid⟩
  · contradiction

/-- A creation comes to a record exactly if the chosen identifier can be stored and the label is allowed. -/
theorem exists_newRecord_iff {draft : Draft} {generated : String} (huuid : IsUuid generated)
    (now : Instant) :
    (∃ record : Record kind, Registry.newRecord kind draft generated now = .ok record)
      ↔ StorableId (Registry.chosenId draft generated) ∧ AllowedLabel kind draft.label := by
  constructor
  · rintro ⟨record, hnew⟩
    have hid := storableId_of_newRecord hnew huuid
    obtain ⟨rfl, -, hvalid⟩ := newRecord_eq_ok_iff.mp hnew
    exact ⟨hid, Record.validate_eq_ok_iff.mp hvalid⟩
  · rintro ⟨hid, hlabel⟩
    exact ⟨_, newRecord_eq_ok_iff.mpr ⟨rfl,
      checkId_eq_ok_iff.mpr ⟨hid.nonblank, hid.short, hid.slashless⟩,
      Record.validate_eq_ok_iff.mpr hlabel⟩⟩

/-! ### Changed records -/

theorem Record.id_apply (record : Record kind) (patch : Patch) :
    (record.apply patch).id = record.id :=
  rfl

theorem Record.label_apply (record : Record kind) (patch : Patch) :
    (record.apply patch).label = patch.label.or record.label := by
  unfold apply
  cases patch.label <;> rfl

theorem Record.description_apply (record : Record kind) (patch : Patch) :
    (record.apply patch).description
      = if kind.describes then patch.description.or record.description
        else record.description := by
  change (if kind.describes then patch.description <|> record.description else none) = _
  split
  · cases patch.description <;> rfl
  · next hplain => exact (record.description_none (by simpa using hplain)).symm

end Records

end Registrar
