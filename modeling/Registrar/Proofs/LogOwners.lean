import Registrar.Log.Routing
import Mathlib.Data.List.MinMax
import Mathlib.Data.List.Nodup

/-!
# The sections that own log events

The events of a target are owned by the most specific section that the target is or lies below, and
belong into its file or, if it has none, into the default one. The files are found by this rule among
the sections with files only, and the thresholds by plain beginnings of the target. So an event is
written where its owner wants it exactly if the section that lends its threshold admits it as the
owner does, and no file of a section in between is in the way.
-/

namespace Registrar.Log

/-! ### Names and targets -/

def IsAbove (name target : String) : Prop :=
  target = name ∨ ∃ rest, target = name ++ "::" ++ rest

theorem isWithin_iff {name target : String} :
    isWithin target name = true ↔ IsAbove name target := by
  have hcolons : "::".toList = [':', ':'] := rfl
  unfold isWithin
  constructor
  · intro hwithin
    split at hwithin
    · next rest hrest =>
        rw [Text.dropLead_eq_some_iff] at hrest
        rw [Bool.or_eq_true, List.isEmpty_iff, Option.isSome_iff_exists] at hwithin
        rcases hwithin with rfl | ⟨below, hbelow⟩
        · left
          rw [← String.toList_inj, hrest, List.append_nil]
        · right
          refine ⟨String.ofList below, ?_⟩
          rw [← String.toList_inj, hrest, Text.dropLead_eq_some_iff.mp hbelow]
          simp [hcolons]
    · contradiction
  · rintro (rfl | ⟨below, rfl⟩)
    · have hrest : Text.dropLead target.toList target.toList = some [] :=
        Text.dropLead_eq_some_iff.mpr (List.append_nil _).symm
      rw [hrest]
      rfl
    · have hrest : Text.dropLead name.toList (name ++ "::" ++ below).toList
          = some ("::".toList ++ below.toList) := by
        rw [Text.dropLead_eq_some_iff, String.toList_append, String.toList_append,
          List.append_assoc]
      have hbelow : Text.dropLead [':', ':'] ("::".toList ++ below.toList) = some below.toList :=
        Text.dropLead_eq_some_iff.mpr rfl
      rw [hrest]
      dsimp only
      rw [hbelow, Option.isSome_some, Bool.or_true]

instance (name target : String) : Decidable (IsAbove name target) :=
  decidable_of_iff _ isWithin_iff

theorem IsAbove.leads {name target : String} (habove : IsAbove name target) :
    name.toList <+: target.toList := by
  rcases habove with rfl | ⟨rest, rfl⟩
  · exact List.prefix_rfl
  · rw [String.append_assoc, String.toList_append]
    exact List.prefix_append ..

/-- Of two beginnings of a target the one with fewer octets has fewer characters. -/
theorem length_le_of_leads {name other target : String} (hname : name.toList <+: target.toList)
    (hother : other.toList <+: target.toList) (hsize : name.utf8ByteSize ≤ other.utf8ByteSize) :
    name.length ≤ other.length := by
  rcases List.prefix_or_prefix_of_prefix hname hother with hshort | ⟨tail, htail⟩
  · exact hshort.length_le
  · have hsplit : name = other ++ String.ofList tail := by
      rw [← String.toList_inj, String.toList_append, String.toList_ofList, htail]
    rw [hsplit, String.utf8ByteSize_append] at hsize
    have hempty : String.ofList tail = "" := String.utf8ByteSize_eq_zero_iff.mp (by omega)
    rw [hsplit, hempty, String.append_empty]

/-- Two beginnings of a target that are equally long are one text. -/
theorem eq_of_leads_of_length_eq {name other target : String} (hname : name.toList <+: target.toList)
    (hother : other.toList <+: target.toList) (hlength : name.length = other.length) :
    name = other := by
  rcases List.prefix_or_prefix_of_prefix hname hother with hshort | hshort
  · exact String.toList_inj.mp (hshort.eq_of_length hlength)
  · exact (String.toList_inj.mp (hshort.eq_of_length hlength.symm)).symm

/-! ### The longest name -/

section Longest

variable {α β : Type} {name : α → String} {entries : List α} {target : String}

def longerBy (name : α → String) (best : Option α) (entry : α) : Option α :=
  match best with
  | none => some entry
  | some other =>
    if (name other).utf8ByteSize ≤ (name entry).utf8ByteSize then some entry else some other

theorem Router.longer_eq : Router.longer = longerBy LogFile.ofSection := by
  funext best file
  cases best <;> rfl

theorem Filter.longer_eq : Filter.longer = longerBy Prod.fst := by
  funext best directive
  cases best <;> rfl

theorem foldl_longerBy_map (f : β → α) (entries : List β) :
    (entries.map f).foldl (longerBy name) none
      = (entries.foldl (longerBy (name ∘ f)) none).map f := by
  induction entries using List.reverseRecOn with
  | nil => rfl
  | append_singleton entries entry ih =>
      rw [List.map_append, List.map_singleton, List.foldl_concat, List.foldl_concat, ih]
      cases entries.foldl (longerBy (name ∘ f)) none with
      | none => rfl
      | some best =>
          dsimp only [longerBy, Option.map_some, Function.comp_apply]
          split <;> rfl

theorem longerBy_ne_none (best : Option α) (entry : α) : longerBy name best entry ≠ none := by
  unfold longerBy
  split
  · exact Option.some_ne_none entry
  · split <;> exact Option.some_ne_none _

theorem foldl_longerBy_eq_none_iff : entries.foldl (longerBy name) none = none ↔ entries = [] := by
  cases entries using List.reverseRecOn with
  | nil => exact iff_of_true rfl rfl
  | append_singleton entries last =>
      rw [List.foldl_concat]
      exact iff_of_false (longerBy_ne_none _ last) (List.concat_ne_nil last entries)

theorem longest_of_foldl {best : α} (hbest : entries.foldl (longerBy name) none = some best) :
    best ∈ entries ∧ ∀ entry ∈ entries, (name entry).utf8ByteSize ≤ (name best).utf8ByteSize := by
  induction entries using List.reverseRecOn generalizing best with
  | nil => contradiction
  | append_singleton entries last ih =>
      rw [List.foldl_concat] at hbest
      rw [List.forall_mem_append, List.forall_mem_singleton, List.mem_append, List.mem_singleton]
      cases hother : entries.foldl (longerBy name) none with
      | none =>
          rw [hother] at hbest
          obtain rfl : last = best := Option.some.inj hbest
          rw [foldl_longerBy_eq_none_iff.mp hother]
          exact ⟨Or.inr rfl, List.forall_mem_nil _, Nat.le_refl _⟩
      | some other =>
          obtain ⟨hmem, hlongest⟩ := ih hother
          rw [hother] at hbest
          dsimp only [longerBy] at hbest
          split at hbest
          · next hlonger =>
              obtain rfl : last = best := Option.some.inj hbest
              exact ⟨Or.inr rfl, fun entry hentry => (hlongest entry hentry).trans hlonger,
                Nat.le_refl _⟩
          · next hshorter =>
              obtain rfl : other = best := Option.some.inj hbest
              exact ⟨Or.inl hmem, hlongest, Nat.le_of_not_le hshorter⟩

/-- Among entries with different names that a target begins with, no two have equally long names. -/
theorem argmax_eq_some_of_longest (hnames : (entries.map name).Nodup)
    (hleads : ∀ entry ∈ entries, (name entry).toList <+: target.toList) {best : α}
    (hbest : best ∈ entries)
    (hlongest : ∀ entry ∈ entries, (name entry).length ≤ (name best).length) :
    (entries.argmax fun entry => (name entry).length) = some best := by
  cases hother : entries.argmax fun entry => (name entry).length with
  | none =>
      rw [List.argmax_eq_none.mp hother] at hbest
      contradiction
  | some other =>
      have hmem := List.argmax_mem hother
      have hlength : (name best).length ≤ (name other).length :=
        List.le_of_mem_argmax (f := fun entry => (name entry).length) hbest hother
      have hsame : name best = name other :=
        eq_of_leads_of_length_eq (hleads best hbest) (hleads other hmem)
          (Nat.le_antisymm hlength (hlongest other hmem))
      rw [List.inj_on_of_nodup_map hnames hbest hmem hsame]

/-- Where names differ, it does not matter that the later one of two equally long ones is taken. -/
theorem foldl_longerBy_eq_argmax (hnames : (entries.map name).Nodup)
    (hleads : ∀ entry ∈ entries, (name entry).toList <+: target.toList) :
    entries.foldl (longerBy name) none = entries.argmax fun entry => (name entry).length := by
  cases hbest : entries.foldl (longerBy name) none with
  | none =>
      rw [foldl_longerBy_eq_none_iff.mp hbest]
      rfl
  | some best =>
      obtain ⟨hmem, hlongest⟩ := longest_of_foldl hbest
      have hlengths : ∀ entry ∈ entries, (name entry).length ≤ (name best).length :=
        fun entry hentry => length_le_of_leads (hleads entry hentry) (hleads best hmem)
          (hlongest entry hentry)
      exact (argmax_eq_some_of_longest hnames hleads hmem hlengths).symm

end Longest

/-! ### Owners and their files -/

section Owners

variable (settings : Settings) (base target : String)

def Settings.above : List (String × Section) :=
  settings.named.filter fun entry => IsAbove entry.1 target

def Settings.owner? : Option (String × Section) :=
  (settings.above target).argmax fun entry => entry.1.length

/-- The section with the longest name that the target begins with, at whatever character that ends. -/
def Settings.lender? : Option (String × Section) :=
  (settings.named.filter fun entry => Text.leads entry.1 target).argmax fun entry => entry.1.length

def ownSink? (base : String) (entry : String × Section) : Option (LogFile × Threshold) :=
  if entry.2.hasFile then some (⟨entry.1, entry.2.path base⟩, .parse entry.2.fileLevel) else none

def Settings.defaultSink? : Option (LogFile × Threshold) :=
  (settings.get? Settings.defaultName).bind fun entry => ownSink? base (Settings.defaultName, entry)

/-- Where the events of a target belong: to the file of the owner, or to the default file. -/
def Settings.sink? : Option (LogFile × Threshold) :=
  ((settings.owner? target).bind (ownSink? base)) <|> settings.defaultSink? base

def due (level : Level) : Option LogFile :=
  (settings.sink? base target).bind fun sink => if sink.2.admits level then some sink.1 else none

def Settings.thresholdOf (found : Option (String × Section)) : Threshold :=
  found.elim (defaultFileThreshold settings) fun entry =>
    if entry.2.hasFile then .parse entry.2.fileLevel else defaultFileThreshold settings

end Owners

section Files

variable {settings : Settings} {base target : String}

def Settings.Distinct (settings : Settings) : Prop :=
  (settings.sections.map Prod.fst).Nodup

def Settings.Openable (settings : Settings) (base : String) (disk : Disk) : Prop :=
  ∀ entry ∈ settings.sections, entry.2.hasFile = true →
    (openFile? disk (entry.2.path base)).isSome = true

/-- Sections above one target begin it, so those that are equally long have one name and are one. -/
theorem Settings.Distinct.longest_eq_argmax (hdistinct : settings.Distinct)
    {entries : List (String × Section)} (hentries : entries.Sublist settings.named)
    (hleads : ∀ entry ∈ entries, entry.1.toList <+: target.toList) :
    entries.foldl (longerBy Prod.fst) none = entries.argmax fun entry => entry.1.length :=
  foldl_longerBy_eq_argmax
    (hdistinct.sublist ((hentries.trans List.filter_sublist).map Prod.fst)) hleads

theorem mem_above {entry : String × Section} :
    entry ∈ settings.above target ↔ entry ∈ settings.named ∧ IsAbove entry.1 target := by
  unfold Settings.above
  rw [List.mem_filter, decide_eq_true_iff]

theorem filter_above_sublist (target : String) (p : String × Section → Bool) :
    ((settings.above target).filter p).Sublist settings.named :=
  List.filter_sublist.trans List.filter_sublist

theorem leads_of_mem_filter_above {p : String × Section → Bool} {entry : String × Section}
    (hentry : entry ∈ (settings.above target).filter p) : entry.1.toList <+: target.toList :=
  (mem_above.mp (List.mem_of_mem_filter hentry)).2.leads

theorem name_ne_default {entry : String × Section} (hentry : entry ∈ settings.named) :
    entry.1 ≠ Settings.defaultName :=
  bne_iff_ne.mp (List.mem_filter.mp hentry).2

def fileOf (base : String) (entry : String × Section) : LogFile :=
  ⟨entry.1, entry.2.path base⟩

theorem Filter.threshold_eq (filter : Filter) (target : String) :
    filter.threshold target
      = ((filter.directives.filter fun entry => Text.leads entry.1 target).foldl
          (longerBy Prod.fst) none).elim filter.default Prod.snd := by
  unfold Filter.threshold
  rw [Filter.longer_eq]
  cases List.foldl _ _ _ <;> rfl

/-- Events are let through as the section with the longest matching beginning says, be it above the target or not. -/
theorem threshold_fileFilter (hdistinct : settings.Distinct) (target : String) :
    (fileFilter settings).threshold target = settings.thresholdOf (settings.lender? target) := by
  have hleads : ∀ entry ∈ settings.named.filter fun entry => Text.leads entry.1 target,
      entry.1.toList <+: target.toList := fun entry hentry =>
    Text.leads_iff.mp (List.mem_filter.mp hentry).2
  have hlongest := hdistinct.longest_eq_argmax List.filter_sublist hleads
  unfold fileFilter Settings.thresholdOf Settings.lender?
  rw [Filter.threshold_eq, List.filter_map, foldl_longerBy_map, Option.elim_map, ← hlongest]
  rfl

theorem foldl_add (files : List LogFile) :
    files.foldl Router.add .empty
      = ⟨(files.filter fun file => file.ofSection = Settings.defaultName).getLast?,
          files.filter fun file => file.ofSection ≠ Settings.defaultName⟩ := by
  induction files using List.reverseRecOn with
  | nil => rfl
  | append_singleton files file ih =>
      rw [List.foldl_concat, ih, List.filter_append, List.filter_append]
      unfold Router.add
      by_cases hdefault : file.ofSection = Settings.defaultName
      · rw [if_pos hdefault]
        simp [hdefault]
      · rw [if_neg hdefault]
        simp [hdefault]

def Settings.files (settings : Settings) (base : String) : List LogFile :=
  (settings.sections.filter fun entry => entry.2.hasFile).map (fileOf base)

theorem filter_files_default (hdistinct : settings.Distinct) (base : String) :
    (settings.files base).filter (fun file => file.ofSection = Settings.defaultName)
      = ((settings.defaultSink? base).map Prod.fst).toList := by
  unfold Settings.files Settings.defaultSink? Settings.get?
  unfold Settings.Distinct at hdistinct
  generalize settings.sections = sections at hdistinct ⊢
  rw [List.filter_map, List.filter_filter]
  induction sections with
  | nil => rfl
  | cons entry sections ih =>
      obtain ⟨name, entry⟩ := entry
      obtain ⟨hnew, hdistinct⟩ := List.nodup_cons.mp hdistinct
      rw [List.filter_cons, List.lookup_cons]
      by_cases hdefault : name = Settings.defaultName
      · subst hdefault
        have hothers : (sections.filter fun entry =>
            ((fun file => decide (file.ofSection = Settings.defaultName)) ∘ fileOf base) entry
              && entry.2.hasFile) = [] := by
          refine List.filter_eq_nil_iff.mpr fun other hother hsame => hnew ?_
          have hname : other.1 = Settings.defaultName :=
            of_decide_eq_true (Bool.and_eq_true_iff.mp hsame).1
          have hmem := List.mem_map_of_mem (f := Prod.fst) hother
          rw [hname] at hmem
          exact hmem
        rw [hothers]
        by_cases hfile : entry.hasFile = true
        · simp [ownSink?, hfile, fileOf]
        · simp [ownSink?, hfile, fileOf]
      · rw [if_neg (by simp [fileOf, hdefault]), beq_false_of_ne (Ne.symm hdefault)]
        exact ih hdistinct

theorem filter_files_named (settings : Settings) (base : String) :
    (settings.files base).filter (fun file => file.ofSection ≠ Settings.defaultName)
      = (settings.named.filter fun entry => entry.2.hasFile).map (fileOf base) := by
  unfold Settings.files Settings.named
  rw [List.filter_map, List.filter_filter, List.filter_filter]
  congr 2
  funext entry
  have hname : decide (entry.1 ≠ Settings.defaultName) = (entry.1 != Settings.defaultName) :=
    Bool.eq_iff_iff.mpr (decide_eq_true_iff.trans bne_iff_ne.symm)
  rw [Bool.and_comm, ← hname]
  rfl

theorem router_eq (hdistinct : settings.Distinct) {disk : Disk}
    (hopen : settings.Openable base disk) :
    router settings base disk
      = ⟨(settings.defaultSink? base).map Prod.fst,
          (settings.named.filter fun entry => entry.2.hasFile).map (fileOf base)⟩ := by
  have hall : (settings.files base).filter
      (fun file => (openFile? disk file.path).isSome) = settings.files base := by
    refine List.filter_eq_self.mpr fun file hfile => ?_
    obtain ⟨entry, hentry, rfl⟩ := List.mem_map.mp hfile
    obtain ⟨hmem, hhas⟩ := List.mem_filter.mp hentry
    exact hopen entry hmem hhas
  unfold router Router.ofSections
  change ((settings.files base).filter _).foldl _ _ = _
  rw [hall, foldl_add, filter_files_default hdistinct, filter_files_named]
  cases settings.defaultSink? base <;> rfl

def Settings.filed? (settings : Settings) (target : String) : Option (String × Section) :=
  ((settings.above target).filter fun entry => entry.2.hasFile).argmax fun entry => entry.1.length

theorem filter_filed (settings : Settings) (target : String) :
    (settings.named.filter fun entry => entry.2.hasFile).filter
        (fun entry => isWithin target entry.1)
      = (settings.above target).filter fun entry => entry.2.hasFile := by
  unfold Settings.above
  rw [List.filter_filter, List.filter_filter]
  refine List.filter_congr fun entry _ => ?_
  rw [Bool.and_comm, Bool.eq_iff_iff.mpr (isWithin_iff.trans decide_eq_true_iff.symm)]

/-- Events go to the most specific section above their target that has a file, and to the default file if there is none. -/
theorem route_router (hdistinct : settings.Distinct) {disk : Disk}
    (hopen : settings.Openable base disk) (target : String) :
    (router settings base disk).route target
      = ((settings.filed? target).map (fileOf base)
          <|> (settings.defaultSink? base).map Prod.fst) := by
  have hlongest := hdistinct.longest_eq_argmax
    (filter_above_sublist target fun entry => entry.2.hasFile) fun _ => leads_of_mem_filter_above
  rw [router_eq hdistinct hopen]
  unfold Router.route Settings.filed?
  rw [List.filter_map, Router.longer_eq, foldl_longerBy_map, ← hlongest, ← filter_filed]
  rfl

end Files

/-! ### Where events are written and where they belong -/

section Delivery

variable {settings : Settings} {base target : String}

theorem filed?_eq_none_iff :
    settings.filed? target = none ↔ ∀ entry ∈ settings.above target, entry.2.hasFile = false := by
  unfold Settings.filed?
  rw [List.argmax_eq_none, List.filter_eq_nil_iff]
  exact forall₂_congr fun entry _ => iff_of_eq (Bool.not_eq_true _)

theorem mem_above_of_filed? {entry : String × Section} (hfiled : settings.filed? target = some entry) :
    entry ∈ settings.above target ∧ entry.2.hasFile = true :=
  List.mem_filter.mp (List.argmax_mem hfiled)

theorem filed?_of_longest (hdistinct : settings.Distinct) {entry : String × Section}
    (hentry : entry ∈ settings.above target) (hfile : entry.2.hasFile = true)
    (hlongest : ∀ other ∈ settings.above target, other.2.hasFile = true →
      other.1.length ≤ entry.1.length) :
    settings.filed? target = some entry := by
  have hnames := hdistinct.sublist
    (((filter_above_sublist target fun entry => entry.2.hasFile).trans List.filter_sublist).map Prod.fst)
  refine argmax_eq_some_of_longest hnames (fun _ => leads_of_mem_filter_above)
    (List.mem_filter.mpr ⟨hentry, hfile⟩) fun other hother => ?_
  exact hlongest other (List.mem_of_mem_filter hother) (List.mem_filter.mp hother).2

/-- An owner with a file of its own is never passed over. -/
theorem filed?_of_owner? (hdistinct : settings.Distinct) {owner : String × Section}
    (howner : settings.owner? target = some owner) (hfile : owner.2.hasFile = true) :
    settings.filed? target = some owner :=
  filed?_of_longest hdistinct (List.argmax_mem howner) hfile fun _ hother _ =>
    List.le_of_mem_argmax (f := fun entry : String × Section => entry.1.length) hother howner

theorem defaultFileThreshold_eq (settings : Settings) (base : String) :
    defaultFileThreshold settings = (settings.defaultSink? base).elim .off Prod.snd := by
  unfold defaultFileThreshold Settings.defaultSink? ownSink?
  cases settings.get? Settings.defaultName with
  | none => rfl
  | some entry =>
      dsimp only [Option.bind_some]
      split
      · rw [Option.elim_some]
      · rw [Option.elim_none]

theorem ofSection_of_defaultSink? {sink : LogFile × Threshold}
    (hsink : settings.defaultSink? base = some sink) :
    sink.1.ofSection = Settings.defaultName := by
  obtain ⟨entry, -, hown⟩ := Option.bind_eq_some_iff.mp hsink
  unfold ownSink? at hown
  split at hown
  · obtain rfl := Option.some.inj hown
    rfl
  · contradiction

theorem sink?_of_owner? {owner : String × Section} (howner : settings.owner? target = some owner) :
    settings.sink? base target
      = if owner.2.hasFile then some (fileOf base owner, .parse owner.2.fileLevel)
        else settings.defaultSink? base := by
  unfold Settings.sink? ownSink?
  rw [howner, Option.bind_some]
  split <;> rfl

theorem sink?_of_unowned (howner : settings.owner? target = none) :
    settings.sink? base target = settings.defaultSink? base := by
  unfold Settings.sink?
  rw [howner]
  rfl

theorem thresholdOf_owner? (settings : Settings) (base target : String) :
    settings.thresholdOf (settings.owner? target)
      = (settings.sink? base target).elim .off Prod.snd := by
  unfold Settings.thresholdOf
  rw [defaultFileThreshold_eq settings base]
  cases howner : settings.owner? target with
  | none =>
      rw [sink?_of_unowned howner]
      rfl
  | some owner =>
      rw [sink?_of_owner? howner, Option.elim_some]
      split
      · rw [Option.elim_some]
      · rfl

theorem due_eq (settings : Settings) (base target : String) (level : Level) :
    due settings base target level
      = if (settings.thresholdOf (settings.owner? target)).admits level
        then (settings.sink? base target).map Prod.fst else none := by
  unfold due
  rw [thresholdOf_owner? settings base]
  cases settings.sink? base target with
  | none => exact (if_neg Bool.false_ne_true).symm
  | some sink => rfl

def Settings.route? (settings : Settings) (base target : String) : Option LogFile :=
  (settings.filed? target).map (fileOf base) <|> (settings.defaultSink? base).map Prod.fst

theorem route?_of_unfiled (hfiled : settings.filed? target = none) :
    settings.route? base target = (settings.defaultSink? base).map Prod.fst := by
  unfold Settings.route?
  rw [hfiled]
  rfl

theorem route?_of_filed? {entry : String × Section} (hfiled : settings.filed? target = some entry) :
    settings.route? base target = some (fileOf base entry) := by
  unfold Settings.route?
  rw [hfiled]
  rfl

/-- Events are routed to the file they belong to, unless a section without a file has one above it with a file. -/
theorem route?_eq_sink?_iff (hdistinct : settings.Distinct) (base target : String) :
    settings.route? base target = (settings.sink? base target).map Prod.fst
      ↔ (∃ owner, settings.owner? target = some owner ∧ owner.2.hasFile = true)
        ∨ ∀ entry ∈ settings.above target, entry.2.hasFile = false := by
  rw [← filed?_eq_none_iff]
  cases howner : settings.owner? target with
  | none =>
      have hnone : settings.above target = [] := List.argmax_eq_none.mp howner
      have hfiled : settings.filed? target = none :=
        filed?_eq_none_iff.mpr (hnone ▸ List.forall_mem_nil _)
      rw [route?_of_unfiled hfiled, sink?_of_unowned howner]
      exact iff_of_true rfl (Or.inr hfiled)
  | some owner =>
      rw [sink?_of_owner? howner]
      by_cases hfile : owner.2.hasFile = true
      · rw [route?_of_filed? (filed?_of_owner? hdistinct howner hfile), if_pos hfile]
        exact iff_of_true rfl (Or.inl ⟨owner, rfl, hfile⟩)
      · have hunfiled : ¬∃ other, some owner = some other ∧ other.2.hasFile = true := by
          rintro ⟨other, hother, hfile'⟩
          exact hfile (Option.some.inj hother ▸ hfile')
        rw [if_neg hfile, or_iff_right hunfiled]
        cases hfiled : settings.filed? target with
        | none => exact iff_of_true (route?_of_unfiled hfiled) rfl
        | some entry =>
            rw [route?_of_filed? hfiled]
            -- The file found is that of a section of its own, never the default one.
            refine iff_of_false (fun hsame => ?_) (Option.some_ne_none entry)
            obtain ⟨sink, hsink, hfst⟩ := Option.map_eq_some_iff.mp hsame.symm
            have hname : entry.1 = Settings.defaultName :=
              (congrArg LogFile.ofSection hfst).symm.trans (ofSection_of_defaultSink? hsink)
            exact name_ne_default (mem_above.mp (mem_above_of_filed? hfiled).1).1 hname

theorem get?_eq_some_iff (hdistinct : settings.Distinct) {name : String} {entry : Section} :
    settings.get? name = some entry ↔ (name, entry) ∈ settings.sections := by
  unfold Settings.get?
  rw [List.lookup_eq_some_iff]
  constructor
  · rintro ⟨front, back, hsplit, -⟩
    rw [hsplit]
    exact List.mem_append_right _ List.mem_cons_self
  · intro hmem
    obtain ⟨front, back, hsplit⟩ := List.append_of_mem hmem
    refine ⟨front, back, hsplit, fun other hother => bne_iff_ne.mpr ?_⟩
    unfold Settings.Distinct at hdistinct
    rw [hsplit, List.map_append, List.map_cons, List.nodup_append] at hdistinct
    exact (hdistinct.2.2 other.1 (List.mem_map_of_mem hother) name List.mem_cons_self).symm

theorem defaultSink?_eq_none_iff (hdistinct : settings.Distinct) (base : String) :
    settings.defaultSink? base = none
      ↔ ∀ entry ∈ settings.sections, entry.1 = Settings.defaultName → entry.2.hasFile = false := by
  unfold Settings.defaultSink?
  rw [Option.bind_eq_none_iff]
  unfold ownSink?
  constructor
  · rintro hnone ⟨name, entry⟩ hentry rfl
    have hown := hnone entry ((get?_eq_some_iff hdistinct).mpr hentry)
    simpa using hown
  · intro hnone entry hentry
    exact if_neg (ne_true_of_eq_false (hnone _ ((get?_eq_some_iff hdistinct).mp hentry) rfl))

/-- Nothing is written if neither the default section nor one above the target has a file. -/
theorem route?_eq_none_iff (hdistinct : settings.Distinct) (base target : String) :
    settings.route? base target = none ↔ ∀ entry ∈ settings.sections,
      entry.1 = Settings.defaultName ∨ IsAbove entry.1 target → entry.2.hasFile = false := by
  have hparts : settings.route? base target = none
      ↔ settings.filed? target = none ∧ settings.defaultSink? base = none := by
    unfold Settings.route?
    cases settings.filed? target <;> simp
  rw [hparts, filed?_eq_none_iff, defaultSink?_eq_none_iff hdistinct]
  constructor
  · rintro ⟨habove, hdefault⟩ entry hentry hname
    by_cases hother : entry.1 = Settings.defaultName
    · exact hdefault entry hentry hother
    · have hnamed : entry ∈ settings.named := List.mem_filter.mpr ⟨hentry, bne_iff_ne.mpr hother⟩
      exact habove entry (mem_above.mpr ⟨hnamed, hname.resolve_left hother⟩)
  · intro hnone
    refine ⟨fun entry hentry => ?_, fun entry hentry hname => hnone entry hentry (Or.inl hname)⟩
    obtain ⟨hnamed, habove⟩ := mem_above.mp hentry
    exact hnone entry (List.mem_of_mem_filter hnamed) (Or.inr habove)

theorem Router.route_of_isEmpty {router : Router} (hempty : router.isEmpty = true)
    (target : String) : router.route target = none := by
  unfold Router.isEmpty at hempty
  rw [Bool.and_eq_true, Option.isNone_iff_eq_none, List.isEmpty_iff] at hempty
  unfold Router.route
  rw [hempty.1, hempty.2]
  rfl

/-- Two sections have a say in where an event goes: one lends its threshold, another gives its file. -/
theorem receiver_eq (hdistinct : settings.Distinct) {disk : Disk}
    (hopen : settings.Openable base disk) (target : String) (level : Level) :
    receiver settings base disk target level
      = if (settings.thresholdOf (settings.lender? target)).admits level
        then settings.route? base target else none := by
  have hroute : (router settings base disk).route target = settings.route? base target :=
    route_router hdistinct hopen target
  unfold receiver Filter.admits
  dsimp only
  rw [threshold_fileFilter hdistinct, ← hroute]
  cases hempty : (router settings base disk).isEmpty with
  | false => rfl
  | true =>
      rw [Router.route_of_isEmpty hempty, Bool.not_true, Bool.false_and]
      exact (ite_self none).symm

/-- What one threshold lets through to the routed file is what another lets through to the wanted one. -/
theorem sent_eq_due_iff {lent owned : Bool} {routed wanted : Option LogFile}
    (hunrouted : routed = none → wanted = none) (hadmitted : owned = true → wanted ≠ none) :
    (if lent then routed else none) = (if owned then wanted else none)
      ↔ routed = none ∨ lent = owned ∧ (owned = true → routed = wanted) := by
  cases owned with
  | false =>
      cases lent with
      | false => exact iff_of_true rfl (Or.inr ⟨rfl, fun h => absurd h Bool.false_ne_true⟩)
      | true => simp
  | true =>
      have hrouted : routed ≠ none := fun hnone => hadmitted rfl (hunrouted hnone)
      cases lent with
      | false => simp [hrouted, (hadmitted rfl).symm]
      | true => simp [hrouted]

end Delivery

/-- The events of a target are admitted as its owner admits them, and no file stands between the owner and the default file. -/
structure Settings.Concordant (settings : Settings) (target : String) (level : Level) : Prop where
  admitted : (settings.thresholdOf (settings.lender? target)).admits level
    = (settings.thresholdOf (settings.owner? target)).admits level
  routed : (settings.thresholdOf (settings.owner? target)).admits level = true →
    (∃ owner, settings.owner? target = some owner ∧ owner.2.hasFile = true)
      ∨ ∀ entry ∈ settings.above target, entry.2.hasFile = false

/-- **Owners of log events.** If all log files can be opened, an event goes where its owner wants it, and nowhere if the owner wants it nowhere, exactly if there is no file for it at all, neither the default one nor one of a section above its target, or the section whose name the target begins with admits it as the owner does and no file of a section above a fileless owner takes it away from the default file. -/
theorem receiver_eq_due_iff {settings : Settings} {base : String} {disk : Disk}
    (hdistinct : settings.Distinct)
    (hopen : settings.Openable base disk) (target : String) (level : Level) :
    receiver settings base disk target level = due settings base target level
      ↔ (∀ entry ∈ settings.sections, entry.1 = Settings.defaultName ∨ IsAbove entry.1 target →
          entry.2.hasFile = false)
        ∨ settings.Concordant target level := by
  have hroute := route?_eq_sink?_iff hdistinct base target
  have hunrouted : settings.route? base target = none →
      (settings.sink? base target).map Prod.fst = none := by
    intro hnone
    have habove := fun entry hentry => (route?_eq_none_iff hdistinct base target).mp hnone entry
      (List.mem_of_mem_filter (mem_above.mp hentry).1) (Or.inr (mem_above.mp hentry).2)
    rw [← hroute.mpr (Or.inr habove), hnone]
  have hadmitted : (settings.thresholdOf (settings.owner? target)).admits level = true →
      (settings.sink? base target).map Prod.fst ≠ none := by
    intro hadmits hnone
    rw [thresholdOf_owner? settings base, Option.map_eq_none_iff.mp hnone] at hadmits
    contradiction
  rw [receiver_eq hdistinct hopen, due_eq, sent_eq_due_iff hunrouted hadmitted,
    route?_eq_none_iff hdistinct base, hroute]
  exact or_congr_right ⟨fun ⟨hlent, hrouted⟩ => ⟨hlent, hrouted⟩, fun h => ⟨h.admitted, h.routed⟩⟩

/-- A section without a file below one with a file, and a section whose name begins another module's. -/
def nestedSettings : Settings where
  sections := [
    ("default", ⟨"info", "logs/all.log", "debug", none, none⟩),
    ("authz_data", ⟨"info", "logs/authz.log", "debug", none, none⟩),
    ("authz_data::infra", ⟨"info", "", "", none, none⟩),
    ("sqlx", ⟨"info", "logs/sqlx.log", "error", none, none⟩)]

def emptyDisk : Disk :=
  ⟨"/srv", [["srv"]], []⟩

/-- The fileless section's events go to the file above it; the other module's events are held back. -/
theorem nestedSettings_misrouted :
    receiver nestedSettings "/srv" emptyDisk "authz_data::infra::storage" .debug
        = some ⟨"authz_data", "/srv/logs/authz.log"⟩
    ∧ due nestedSettings "/srv" "authz_data::infra::storage" .debug
        = some ⟨"default", "/srv/logs/all.log"⟩
    ∧ ¬nestedSettings.Concordant "authz_data::infra::storage" .debug
    ∧ receiver nestedSettings "/srv" emptyDisk "sqlx_core::pool" .info = none
    ∧ due nestedSettings "/srv" "sqlx_core::pool" .info = some ⟨"default", "/srv/logs/all.log"⟩
    ∧ ¬nestedSettings.Concordant "sqlx_core::pool" .info := by
  have hdistinct : nestedSettings.Distinct := by
    unfold Settings.Distinct
    decide
  have hopen : nestedSettings.Openable "/srv" emptyDisk := by
    unfold Settings.Openable
    decide
  have hexact := receiver_eq_due_iff hdistinct hopen
  have hstorage : receiver nestedSettings "/srv" emptyDisk "authz_data::infra::storage" .debug
      = some ⟨"authz_data", "/srv/logs/authz.log"⟩ := by decide
  have hstorageDue : due nestedSettings "/srv" "authz_data::infra::storage" .debug
      = some ⟨"default", "/srv/logs/all.log"⟩ := by decide
  have hpool : receiver nestedSettings "/srv" emptyDisk "sqlx_core::pool" .info = none := by decide
  have hpoolDue : due nestedSettings "/srv" "sqlx_core::pool" .info
      = some ⟨"default", "/srv/logs/all.log"⟩ := by decide
  refine ⟨hstorage, hstorageDue, fun hconcordant => ?_, hpool, hpoolDue, fun hconcordant => ?_⟩
  · have hsame := (hexact "authz_data::infra::storage" .debug).mpr (Or.inr hconcordant)
    rw [hstorage, hstorageDue] at hsame
    exact absurd hsame (by decide)
  · have hsame := (hexact "sqlx_core::pool" .info).mpr (Or.inr hconcordant)
    rw [hpool, hpoolDue] at hsame
    exact absurd hsame (by decide)

end Registrar.Log
