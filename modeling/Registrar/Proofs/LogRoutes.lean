import Registrar.Proofs.LogOwners
import Mathlib.Data.Finset.Max

/-!
# The routes of log events

Sections are kept by name, in no order of their own. The events of a target go to the file of the
section with the longest name above the target, of those that have a file, or to the default file;
as no two sections above a target have equally long names, it does not matter in which order the
files are opened.
-/

namespace Registrar.Log

/-! ### The longest name above a target -/

section Names

variable {name other target : String}

/-- A name below another one is a path through it. -/
theorem IsAbove.colon_mem (hname : IsAbove name target) (hother : IsAbove other target)
    (hlength : name.length < other.length) : ':' ∈ other.toList := by
  rcases hname with rfl | ⟨rest, rfl⟩
  · exact absurd hother.leads.length_le (Nat.not_le_of_lt hlength)
  · have hlead : name.toList ++ [':'] <+: (name ++ "::" ++ rest).toList := by
      rw [String.append_assoc, String.toList_append, String.toList_append,
        List.prefix_append_right_inj]
      exact ⟨':' :: rest.toList, rfl⟩
    have hpath : name.toList ++ [':'] <+: other.toList := by
      refine List.prefix_of_prefix_length_le hlead hother.leads ?_
      rw [List.length_append]
      exact hlength
    exact hpath.subset (List.mem_append_right _ (List.mem_singleton_self _))

/-- Nothing is above the events of the default section but that section. -/
theorem IsAbove.default_length_le (hname : IsAbove name target)
    (hdefault : IsAbove Settings.defaultName target) :
    Settings.defaultName.length ≤ name.length := by
  by_contra hshort
  have hcolon := hname.colon_mem hdefault (Nat.lt_of_not_le hshort)
  exact absurd hcolon (by decide)

end Names

/-! ### Where events go -/

/-- The section has a file and, of all such sections above the target, the longest name. -/
structure Settings.Receives (settings : Settings) (target : String) (entry : String × Section) :
    Prop where
  mem : entry ∈ settings.sections
  hasFile : entry.2.hasFile = true
  above : IsAbove entry.1 target
  longest : ∀ other ∈ settings.sections, other.2.hasFile = true → IsAbove other.1 target →
    other ≠ entry → other.1.length < entry.1.length

def Settings.Unowned (settings : Settings) (target : String) : Prop :=
  ∀ entry ∈ settings.sections, entry.2.hasFile = true → ¬IsAbove entry.1 target

inductive Settings.Routes (settings : Settings) (base target : String) : Option LogFile → Prop where
  | owned {entry : String × Section} (hentry : settings.Receives target entry) :
      Routes settings base target (some (fileOf base entry))
  | unowned {entry : Section} (hunowned : settings.Unowned target)
      (hentry : (Settings.defaultName, entry) ∈ settings.sections) (hfile : entry.hasFile = true) :
      Routes settings base target (some (fileOf base (Settings.defaultName, entry)))
  | nowhere (hunowned : settings.Unowned target)
      (hnone : ∀ entry, (Settings.defaultName, entry) ∈ settings.sections →
        entry.hasFile = false) :
      Routes settings base target none

section Routes

variable {settings : Settings} {base target : String} {result : Option LogFile}

/-- The order in which sections are stored has no influence on the routes. -/
theorem Settings.Routes.of_perm {order : List (String × Section)}
    (hroutes : settings.Routes base target result) (horder : order.Perm settings.sections) :
    Settings.Routes ⟨order⟩ base target result := by
  cases hroutes with
  | owned hentry =>
      exact .owned ⟨horder.mem_iff.mpr hentry.mem, hentry.hasFile, hentry.above,
        fun other hother => hentry.longest other (horder.mem_iff.mp hother)⟩
  | unowned hunowned hentry hfile =>
      exact .unowned (fun other hother => hunowned other (horder.mem_iff.mp hother))
        (horder.mem_iff.mpr hentry) hfile
  | nowhere hunowned hnone =>
      exact .nowhere (fun other hother => hunowned other (horder.mem_iff.mp hother))
        fun entry hentry => hnone entry (horder.mem_iff.mp hentry)

def Settings.holders (settings : Settings) (target : String) : List (String × Section) :=
  settings.sections.filter fun entry => entry.2.hasFile && decide (IsAbove entry.1 target)

theorem mem_holders {entry : String × Section} : entry ∈ settings.holders target
    ↔ entry ∈ settings.sections ∧ entry.2.hasFile = true ∧ IsAbove entry.1 target := by
  unfold Settings.holders
  rw [List.mem_filter, Bool.and_eq_true, decide_eq_true_iff]

theorem holders_ne_nil (howned : ¬settings.Unowned target) : settings.holders target ≠ [] := by
  intro hnil
  refine howned fun entry hentry hfile habove => ?_
  have hholder : entry ∈ settings.holders target := mem_holders.mpr ⟨hentry, hfile, habove⟩
  rw [hnil] at hholder
  contradiction

/-- Of finitely many sections with files above a target one has the longest name. -/
theorem exists_receives (hdistinct : settings.Distinct) (howned : ¬settings.Unowned target) :
    ∃ entry, settings.Receives target entry := by
  obtain ⟨best, hbest, hlongest⟩ :=
    Multiset.exists_max_image (fun entry : String × Section => entry.1.length)
      (mt (Multiset.coe_eq_zero _).mp (holders_ne_nil howned))
  obtain ⟨hmem, hfile, habove⟩ := mem_holders.mp hbest
  refine ⟨best, hmem, hfile, habove, fun other hother hotherFile hotherAbove hne => ?_⟩
  have hle : other.1.length ≤ best.1.length :=
    hlongest other (mem_holders.mpr ⟨hother, hotherFile, hotherAbove⟩)
  -- Two names of one length that the target begins with are the same name.
  refine Nat.lt_of_le_of_ne hle fun hlength => hne ?_
  exact List.inj_on_of_nodup_map hdistinct hother hmem
    (eq_of_leads_of_length_eq hotherAbove.leads habove.leads hlength)

/-- Every target has a route, if only one to nowhere. -/
theorem exists_routes (hdistinct : settings.Distinct) (base target : String) :
    ∃ result, settings.Routes base target result := by
  by_cases hunowned : settings.Unowned target
  · by_cases hnone : ∀ entry, (Settings.defaultName, entry) ∈ settings.sections →
        entry.hasFile = false
    · exact ⟨none, .nowhere hunowned hnone⟩
    · push Not at hnone
      obtain ⟨entry, hentry, hfile⟩ := hnone
      exact ⟨_, .unowned hunowned hentry (eq_true_of_ne_false hfile)⟩
  · obtain ⟨entry, hentry⟩ := exists_receives hdistinct hunowned
    exact ⟨_, .owned hentry⟩

theorem defaultSink?_of_mem (hdistinct : settings.Distinct) (base : String) {entry : Section}
    (hentry : (Settings.defaultName, entry) ∈ settings.sections) (hfile : entry.hasFile = true) :
    (settings.defaultSink? base).map Prod.fst
      = some (fileOf base (Settings.defaultName, entry)) := by
  unfold Settings.defaultSink? ownSink?
  rw [(get?_eq_some_iff hdistinct).mpr hentry, Option.bind_some, if_pos hfile]
  rfl

theorem Settings.Unowned.route?_eq (hunowned : settings.Unowned target) (base : String) :
    settings.route? base target = (settings.defaultSink? base).map Prod.fst := by
  refine route?_of_unfiled (filed?_eq_none_iff.mpr fun entry hentry => ?_)
  obtain ⟨hnamed, habove⟩ := mem_above.mp hentry
  exact eq_false_of_ne_true fun hfile =>
    hunowned entry (List.mem_of_mem_filter hnamed) hfile habove

theorem Settings.Receives.filed?_eq (hdistinct : settings.Distinct) {entry : String × Section}
    (hentry : settings.Receives target entry) (hname : entry.1 ≠ Settings.defaultName) :
    settings.filed? target = some entry := by
  have hnamed : entry ∈ settings.named :=
    List.mem_filter.mpr ⟨hentry.mem, bne_iff_ne.mpr hname⟩
  refine filed?_of_longest hdistinct (mem_above.mpr ⟨hnamed, hentry.above⟩) hentry.hasFile
    fun other hother hfile => ?_
  obtain ⟨hother, habove⟩ := mem_above.mp hother
  by_cases hsame : other = entry
  · rw [hsame]
  · exact (hentry.longest other (List.mem_of_mem_filter hother) hfile habove hsame).le

/-- If the default section has the longest name above a target, it is the only one above it. -/
theorem Settings.Receives.filed?_of_default {entry : String × Section}
    (hentry : settings.Receives target entry) (hname : entry.1 = Settings.defaultName) :
    settings.filed? target = none := by
  refine filed?_eq_none_iff.mpr fun other hother => eq_false_of_ne_true fun hfile => ?_
  obtain ⟨hnamed, habove⟩ := mem_above.mp hother
  have hne : other ≠ entry := by
    rintro rfl
    exact name_ne_default hnamed hname
  have hshort := hentry.longest other (List.mem_of_mem_filter hnamed) hfile habove hne
  have hlong := habove.default_length_le (hname ▸ hentry.above)
  rw [hname] at hshort
  exact Nat.not_lt_of_le hlong hshort

/-- The specification leaves no choice: what it allows is the one route. -/
theorem Settings.Routes.route?_eq (hdistinct : settings.Distinct)
    (hroutes : settings.Routes base target result) : settings.route? base target = result := by
  cases hroutes with
  | @owned entry hentry =>
      by_cases hname : entry.1 = Settings.defaultName
      · obtain ⟨name, entry⟩ := entry
        subst hname
        rw [route?_of_unfiled (hentry.filed?_of_default rfl),
          defaultSink?_of_mem hdistinct base hentry.mem hentry.hasFile]
      · exact route?_of_filed? (hentry.filed?_eq hdistinct hname)
  | unowned hunowned hentry hfile =>
      rw [hunowned.route?_eq base, defaultSink?_of_mem hdistinct base hentry hfile]
  | nowhere hunowned hnone =>
      have hsink : settings.defaultSink? base = none := by
        refine (defaultSink?_eq_none_iff hdistinct base).mpr ?_
        rintro ⟨name, entry⟩ hentry rfl
        exact hnone entry hentry
      rw [hunowned.route?_eq base, hsink]
      rfl

end Routes

/-- **Routes of log events.** If all log files can be opened, then in whatever order the sections come, the events of a target go to the file of the one section with a file whose name is the longest above the target; to the default file, if no section with a file is above it; and nowhere, if there is no default file either. -/
theorem routes_iff_route {settings : Settings} {base : String} {disk : Disk}
    {order : List (String × Section)} (hdistinct : settings.Distinct)
    (hopen : settings.Openable base disk) (horder : order.Perm settings.sections) (target : String)
    (result : Option LogFile) :
    settings.Routes base target result ↔ (router ⟨order⟩ base disk).route target = result := by
  have hdistinct' : Settings.Distinct ⟨order⟩ := (horder.map Prod.fst).nodup_iff.mpr hdistinct
  have hopen' : Settings.Openable ⟨order⟩ base disk := fun entry hentry =>
    hopen entry (horder.mem_iff.mp hentry)
  have hroute : (router ⟨order⟩ base disk).route target = Settings.route? ⟨order⟩ base target :=
    route_router hdistinct' hopen' target
  rw [hroute]
  constructor
  · intro hroutes
    exact (hroutes.of_perm horder).route?_eq hdistinct'
  · rintro rfl
    obtain ⟨result, hroutes⟩ := exists_routes hdistinct base target
    rwa [(hroutes.of_perm horder).route?_eq hdistinct']

/-- Two sections with files above one target, and between it and them a section without a file. -/
def layeredSettings : Settings where
  sections := [
    ("authz", ⟨"info", "logs/authz.log", "debug", none, none⟩),
    ("authz::infra", ⟨"info", "logs/infra.log", "debug", none, none⟩),
    ("authz::infra::storage", ⟨"info", "", "", none, none⟩),
    ("default", ⟨"info", "logs/all.log", "debug", none, none⟩)]

/-- The file of the longer name is found, though it is opened before that of the shorter one. -/
theorem layeredSettings_routed :
    layeredSettings.Distinct
      ∧ layeredSettings.Openable "/srv" emptyDisk
      ∧ layeredSettings.sections.reverse.Perm layeredSettings.sections
      ∧ layeredSettings.Routes "/srv" "authz::infra::storage::pool"
          (some ⟨"authz::infra", "/srv/logs/infra.log"⟩)
      ∧ layeredSettings.Routes "/srv" "authz_data" (some ⟨"default", "/srv/logs/all.log"⟩) := by
  have hdistinct : layeredSettings.Distinct := by
    unfold Settings.Distinct
    decide
  have hopen : layeredSettings.Openable "/srv" emptyDisk := by
    unfold Settings.Openable
    decide
  have hperm : layeredSettings.sections.reverse.Perm layeredSettings.sections :=
    List.reverse_perm _
  have hroutes := routes_iff_route hdistinct hopen hperm
  exact ⟨hdistinct, hopen, hperm, (hroutes _ _).mpr (by decide), (hroutes _ _).mpr (by decide)⟩

end Registrar.Log
