import Registrar.Proofs.HiddenPasswords
import Mathlib.Data.List.Infix

/-!
# Absolute names of SQLite files

A name of an SQLite file is the scheme, a path and a query. Making it absolute changes the path
alone, and leaves every name that is absolute already as it is.
-/

namespace Registrar

/-! ### Beginnings of texts -/

namespace Text

theorem leads_iff_exists_append {lead text : String} :
    leads lead text = true ↔ ∃ rest, text = lead ++ rest := by
  rw [leads_iff]
  constructor
  · rintro ⟨tail, htail⟩
    refine ⟨String.ofList tail, ?_⟩
    rw [← String.toList_inj, String.toList_append, String.toList_ofList, htail]
  · rintro ⟨rest, rfl⟩
    rw [String.toList_append]
    exact List.prefix_append _ _

theorem leads_append_append (front lead text : String) :
    leads (front ++ lead) (front ++ text) = leads lead text := by
  rw [Bool.eq_iff_iff, leads_iff, leads_iff, String.toList_append, String.toList_append,
    List.prefix_append_right_inj]

/-- What begins with a character that a beginning does not have adds nothing to that beginning. -/
theorem prefix_of_prefix_append {lead front back : List Char} (hlead : lead <+: front ++ back)
    (hback : ∀ c ∈ back.head?, c ∉ lead) : lead <+: front := by
  obtain hshort | ⟨mid, rfl⟩ :=
    List.prefix_or_prefix_of_prefix hlead (List.prefix_append front back)
  · exact hshort
  · rw [List.prefix_append_right_inj] at hlead
    cases mid with
    | nil => simp
    | cons c mid =>
        obtain ⟨rest, rfl⟩ := hlead
        exact absurd (List.mem_append_right front List.mem_cons_self) (hback c rfl)

end Text

/-! ### Paths -/

namespace Path

section

variable {base path : String}

theorem isAbsolute_iff : isAbsolute path = true ↔ ∃ rest, path.toList = '/' :: rest := by
  unfold isAbsolute
  cases path.toList with
  | nil => simp
  | cons c rest => simp

theorem join_of_isAbsolute (hpath : isAbsolute path = true) (base : String) :
    join base path = path := by
  unfold join
  rw [if_pos hpath]

def separator (base : String) : String :=
  if base.isEmpty || base.toList.getLast? == some '/' then "" else "/"

theorem notMem_separator {c : Char} (hslash : c ≠ '/') (base : String) :
    c ∉ (separator base).toList := by
  unfold separator
  split <;> simp [hslash]

theorem join_of_relative (hpath : isAbsolute path = false) (base : String) :
    join base path = base ++ separator base ++ path := by
  unfold join separator
  rw [if_neg (by simp [hpath])]
  split
  · rw [String.append_empty]
  · rfl

theorem isAbsolute_join (hbase : isAbsolute base = true) (path : String) :
    isAbsolute (join base path) = true := by
  cases hpath : isAbsolute path with
  | true =>
      rw [join_of_isAbsolute hpath]
      exact hpath
  | false =>
      obtain ⟨rest, hrest⟩ := isAbsolute_iff.mp hbase
      rw [join_of_relative hpath, isAbsolute_iff]
      exact ⟨rest ++ (separator base).toList ++ path.toList, by simp [hrest]⟩

theorem notMem_join {c : Char} (hslash : c ≠ '/') (hbase : c ∉ base.toList)
    (hpath : c ∉ path.toList) : c ∉ (join base path).toList := by
  cases habsolute : isAbsolute path with
  | true =>
      rw [join_of_isAbsolute habsolute]
      exact hpath
  | false =>
      rw [join_of_relative habsolute]
      simp [hbase, notMem_separator hslash, hpath]

end

end Path

namespace Dsn

open Text

/-! ### Slashes -/

section Slashes

variable {path : String}

theorem toList_forwardSlashes (path : String) :
    (forwardSlashes path).toList = path.toList.map fun c => if c = '\\' then '/' else c :=
  String.toList_map

theorem forwardSlashes_eq_self (hpath : '\\' ∉ path.toList) : forwardSlashes path = path := by
  rw [← String.toList_inj, toList_forwardSlashes]
  refine (List.map_congr_left (g := id) fun c hc => ?_).trans (List.map_id _)
  refine if_neg ?_
  rintro rfl
  exact hpath hc

theorem backslash_notMem_forwardSlashes (path : String) :
    '\\' ∉ (forwardSlashes path).toList := by
  rw [toList_forwardSlashes, List.mem_map]
  rintro ⟨c, -, hc⟩
  split at hc
  · exact absurd hc (by decide)
  · next hne => exact hne hc

theorem notMem_forwardSlashes {c : Char} (hslash : c ≠ '/') (hpath : c ∉ path.toList) :
    c ∉ (forwardSlashes path).toList := by
  rw [toList_forwardSlashes, List.mem_map]
  rintro ⟨d, hd, hc⟩
  split at hc
  · exact hslash hc.symm
  · exact hpath (hc ▸ hd)

theorem forwardSlashes_append (front back : String) :
    forwardSlashes (front ++ back) = forwardSlashes front ++ forwardSlashes back := by
  rw [← String.toList_inj]
  simp [toList_forwardSlashes]

theorem isAbsolute_forwardSlashes (hpath : Path.isAbsolute path = true) :
    Path.isAbsolute (forwardSlashes path) = true := by
  obtain ⟨rest, hrest⟩ := Path.isAbsolute_iff.mp hpath
  rw [Path.isAbsolute_iff, toList_forwardSlashes, hrest]
  exact ⟨_, rfl⟩

end Slashes

/-! ### The parts of a name -/

/-- A name of an SQLite file in its parts. The path ends at the first question mark, where the query begins; two slashes in front of it belong to the scheme. -/
structure SqliteName where
  slashed : Bool
  path : String
  query : String
  questionMark_notMem_path : '?' ∉ path.toList
  query_form : query = "" ∨ ∃ options, query = "?" ++ options
  path_unslashed : slashed = false → leads "//" path = false

namespace SqliteName

def scheme (name : SqliteName) : String :=
  if name.slashed then "sqlite://" else "sqlite:"

def text (name : SqliteName) : String :=
  name.scheme ++ (name.path ++ name.query)

theorem slashedScheme_eq : "sqlite://" = "sqlite:" ++ "//" :=
  rfl

theorem exists_questionMark (rest : String) :
    ∃ path query : String, rest = path ++ query ∧ '?' ∉ path.toList
      ∧ (query = "" ∨ ∃ options, query = "?" ++ options) := by
  by_cases hmark : '?' ∈ rest.toList
  · have hquestion : "?".toList = ['?'] := rfl
    obtain ⟨path, options, hpath, rfl⟩ := exists_first_mark hquestion hmark
    exact ⟨path, "?" ++ options, String.append_assoc, hpath, Or.inr ⟨options, rfl⟩⟩
  · exact ⟨rest, "", String.append_empty.symm, hmark, Or.inl rfl⟩

/-- Every name that begins with the scheme has these parts. -/
theorem exists_text_eq {dsn : String} (hscheme : leads "sqlite:" dsn = true) :
    ∃ name : SqliteName, name.text = dsn := by
  obtain ⟨rest, rfl⟩ := leads_iff_exists_append.mp hscheme
  cases hslashes : leads "//" rest with
  | true =>
      obtain ⟨rest, rfl⟩ := leads_iff_exists_append.mp hslashes
      obtain ⟨path, query, rfl, hpath, hquery⟩ := exists_questionMark rest
      refine ⟨⟨true, path, query, hpath, hquery, nofun⟩, ?_⟩
      rw [text, scheme, if_pos rfl, slashedScheme_eq, String.append_assoc]
  | false =>
      obtain ⟨path, query, rfl, hpath, hquery⟩ := exists_questionMark rest
      refine ⟨⟨false, path, query, hpath, hquery, fun _ => ?_⟩, rfl⟩
      rw [Bool.eq_false_iff, ne_eq, leads_iff] at hslashes ⊢
      rw [String.toList_append] at hslashes
      exact fun hpath => hslashes (hpath.trans (List.prefix_append _ _))

variable (name : SqliteName)

theorem splitQuery_path : splitQuery (name.path ++ name.query) = (name.path, name.query) := by
  have hmark : "?".toList = ['?'] := rfl
  unfold splitQuery
  obtain hquery | ⟨options, hquery⟩ := name.query_form
  · rw [hquery, String.append_empty, cut?_eq_none hmark name.questionMark_notMem_path]
  · rw [hquery, ← String.append_assoc, cut?_append hmark name.questionMark_notMem_path]

theorem leads_slashes : leads "//" (name.path ++ name.query) = leads "//" name.path := by
  rw [Bool.eq_iff_iff, leads_iff, leads_iff, String.toList_append]
  refine ⟨fun hslashes => prefix_of_prefix_append hslashes ?_,
    fun hslashes => hslashes.trans (List.prefix_append _ _)⟩
  obtain hquery | ⟨options, hquery⟩ := name.query_form
  · simp [hquery]
  · simp [hquery]

theorem sqliteRest?_text : sqliteRest? name.text = some (name.path ++ name.query) := by
  unfold sqliteRest? text scheme
  cases hslashed : name.slashed with
  | true =>
      rw [if_pos rfl, after?_append]
  | false =>
      have hscheme : leads ("sqlite:" ++ "//") ("sqlite:" ++ (name.path ++ name.query)) = false := by
        rw [leads_append_append, leads_slashes]
        exact name.path_unslashed hslashed
      have hnone : after? "sqlite://" ("sqlite:" ++ (name.path ++ name.query)) = none :=
        after?_eq_none_iff.mpr hscheme
      rw [if_neg Bool.false_ne_true, hnone, after?_append]

/-- Two slashes in front of the path are dropped and written again, so nothing but the path is looked at. -/
theorem absolutize_text (base : String) :
    absolutize name.text base
      = if asksForMemory name.text = true then .ok name.text
        else if name.path = "" then .error .emptyPath
        else .ok ("sqlite://" ++ forwardSlashes (Path.join base name.path) ++ name.query) := by
  unfold absolutize
  rw [sqliteRest?_text]
  dsimp only
  rw [splitQuery_path]
  simp only [String.isEmpty_iff]

theorem leads_scheme : leads "sqlite:" name.text = true := by
  rw [leads_iff_exists_append]
  unfold text scheme
  cases name.slashed with
  | true =>
      refine ⟨"//" ++ (name.path ++ name.query), ?_⟩
      rw [if_pos rfl, slashedScheme_eq, String.append_assoc]
  | false => exact ⟨name.path ++ name.query, rfl⟩

def placed (name : SqliteName) (base : String) (hbase : '?' ∉ base.toList) : SqliteName where
  slashed := true
  path := forwardSlashes (Path.join base name.path)
  query := name.query
  questionMark_notMem_path := notMem_forwardSlashes (by decide)
    (Path.notMem_join (by decide) hbase name.questionMark_notMem_path)
  query_form := name.query_form
  path_unslashed := nofun

theorem absolutize_eq_ok_iff {base result : String} (hbase : '?' ∉ base.toList) :
    absolutize name.text base = .ok result
      ↔ (asksForMemory name.text = true ∧ result = name.text)
        ∨ (asksForMemory name.text = false ∧ name.path ≠ ""
          ∧ result = (name.placed base hbase).text) := by
  rw [absolutize_text]
  cases asksForMemory name.text with
  | true =>
      rw [if_pos rfl, Except.ok.injEq, eq_comm]
      simp
  | false =>
      rw [if_neg Bool.false_ne_true, String.append_assoc]
      split
      · next hempty => simp [hempty]
      · next hpath =>
          have hfile : ¬ (false = true ∧ result = name.text) := fun hmemory => nomatch hmemory.1
          rw [Except.ok.injEq, eq_comm, or_iff_right hfile, and_iff_right rfl,
            and_iff_right hpath]
          rfl

/-- A path that is absolute already is kept whatever the directory. -/
theorem path_placed {base : String} (hbase : '?' ∉ base.toList) (hbackslash : '\\' ∉ base.toList) :
    (name.placed base hbase).path
      = (if Path.isAbsolute name.path then "" else base ++ Path.separator base)
        ++ forwardSlashes name.path := by
  unfold placed
  dsimp only
  cases habsolute : Path.isAbsolute name.path with
  | true => rw [Path.join_of_isAbsolute habsolute, if_pos rfl, String.empty_append]
  | false =>
      have hseparator : '\\' ∉ (base ++ Path.separator base).toList := by
        rw [String.toList_append, List.mem_append, not_or]
        exact ⟨hbackslash, Path.notMem_separator (by decide) base⟩
      rw [Path.join_of_relative habsolute, if_neg Bool.false_ne_true, forwardSlashes_append,
        forwardSlashes_eq_self hseparator]

/-- Without backslashes the file is found where the name has it from the directory. -/
theorem place_placed {base : String} (hbase : '?' ∉ base.toList)
    (habsolute : Path.isAbsolute base = true) (hbackslash : '\\' ∉ base.toList)
    (hpath : '\\' ∉ name.path.toList) (current : String) :
    Path.place current (name.placed base hbase).path = Path.place base name.path := by
  have hjoin : (name.placed base hbase).path = Path.join base name.path :=
    forwardSlashes_eq_self (Path.notMem_join (by decide) hbackslash hpath)
  unfold Path.place
  rw [hjoin, Path.join_of_isAbsolute (Path.isAbsolute_join habsolute name.path)]

/-- An absolute path with forward slashes only, and two slashes in front of it. -/
structure Absolute (name : SqliteName) : Prop where
  slashed : name.slashed = true
  path_absolute : Path.isAbsolute name.path = true
  backslash_notMem_path : '\\' ∉ name.path.toList

variable {name}

theorem absolute_placed {base : String} (hbase : '?' ∉ base.toList)
    (habsolute : Path.isAbsolute base = true) : (name.placed base hbase).Absolute :=
  ⟨rfl, isAbsolute_forwardSlashes (Path.isAbsolute_join habsolute name.path),
    backslash_notMem_forwardSlashes _⟩

/-- From whatever directory it is seen, an absolute name stays as it is. -/
theorem Absolute.absolutize (habsolute : name.Absolute) (base : String) :
    absolutize name.text base = .ok name.text := by
  have hpath : name.path ≠ "" := by
    intro hempty
    have hslash := habsolute.path_absolute
    rw [hempty] at hslash
    contradiction
  rw [absolutize_text, if_neg hpath, Path.join_of_isAbsolute habsolute.path_absolute,
    forwardSlashes_eq_self habsolute.backslash_notMem_path, String.append_assoc]
  unfold text scheme
  rw [if_pos habsolute.slashed, ite_self]

end SqliteName

theorem backend_of_leads {dsn : String} (hscheme : leads "sqlite:" dsn = true) :
    backend dsn = .ok .sqlite := by
  obtain ⟨rest, rfl⟩ := leads_iff_exists_append.mp hscheme
  have htrim : trimStart ("sqlite:" ++ rest) = "sqlite:" ++ rest := by
    rw [← String.toList_inj, trimStart, String.toList_ofList, String.toList_append]
    rfl
  have hother : ∀ lead ∈ ["postgres://", "postgresql://", "mysql://"],
      leads lead ("sqlite:" ++ rest) = false := by
    intro lead hlead
    unfold leads
    rw [String.toList_append]
    obtain rfl | rfl | rfl : lead = "postgres://" ∨ lead = "postgresql://" ∨ lead = "mysql://" := by
      simpa using hlead
    all_goals rfl
  unfold backend
  dsimp only
  rw [htrim, hother _ (by decide), hother _ (by decide), hother _ (by decide), hscheme]
  rfl

/-- **Absolute names.** A name of an SQLite database is refused exactly if it has no path and speaks of no database in memory. Otherwise the absolute name is a name of SQLite that stays as it is from every directory: the very name for a database in memory; for a file two slashes, the path seen from the directory with forward slashes, and the query as it was written, so that the file is found at the same place from everywhere. -/
theorem absolutize_sqlite {dsn base : String} (hscheme : leads "sqlite:" dsn = true)
    (habsolute : Path.isAbsolute base = true) (hquestion : '?' ∉ base.toList)
    (hbackslash : '\\' ∉ base.toList) :
    ∃ name : SqliteName, name.text = dsn
      ∧ ((∃ fault, absolutize dsn base = .error fault)
        ↔ asksForMemory dsn = false ∧ name.path = "")
      ∧ ∀ result, absolutize dsn base = .ok result →
        (∀ other, absolutize result other = .ok result)
          ∧ backend result = .ok .sqlite
          ∧ (asksForMemory dsn = true → result = dsn)
          ∧ (asksForMemory dsn = false → ∃ path : String,
            result = "sqlite://" ++ path ++ name.query
              ∧ Path.isAbsolute path = true
              ∧ path = (if Path.isAbsolute name.path then "" else base ++ Path.separator base)
                ++ forwardSlashes name.path
              ∧ ('\\' ∉ name.path.toList →
                ∀ current, Path.place current path = Path.place base name.path)) := by
  obtain ⟨name, rfl⟩ := SqliteName.exists_text_eq hscheme
  refine ⟨name, rfl, ?_, ?_⟩
  · rw [name.absolutize_text]
    cases asksForMemory name.text with
    | true => simp
    | false =>
        rw [if_neg Bool.false_ne_true]
        split
        · next hempty => exact iff_of_true ⟨_, rfl⟩ ⟨rfl, hempty⟩
        · next hpath => exact iff_of_false nofun fun hempty => hpath hempty.2
  · intro result hok
    obtain ⟨hmemory, rfl⟩ | ⟨hmemory, -, rfl⟩ := (name.absolutize_eq_ok_iff hquestion).mp hok
    · have hsame : ∀ other, absolutize name.text other = .ok name.text := by
        intro other
        rw [name.absolutize_text, if_pos hmemory]
      refine ⟨hsame, backend_of_leads hscheme, fun _ => rfl, fun hfile => ?_⟩
      exact absurd (hmemory.symm.trans hfile) (by decide)
    · have hplaced := name.absolute_placed hquestion habsolute
      refine ⟨hplaced.absolutize, backend_of_leads (SqliteName.leads_scheme _), fun hin => ?_,
        fun _ => ⟨(name.placed base hquestion).path, ?_, hplaced.path_absolute,
          name.path_placed hquestion hbackslash,
          name.place_placed hquestion habsolute hbackslash⟩⟩
      · exact absurd (hmemory.symm.trans hin) (by decide)
      · exact String.append_assoc.symm

/-- A relative file with a backslash and the scheme in its path, and a second question mark in its query. -/
theorem absolutize_relative_file :
    absolutize "sqlite:data\\sqlite:roles.db?mode=rwc&cache=?" "/srv/registrar"
        = .ok "sqlite:///srv/registrar/data/sqlite:roles.db?mode=rwc&cache=?"
      ∧ (∀ other, absolutize "sqlite:///srv/registrar/data/sqlite:roles.db?mode=rwc&cache=?" other
        = .ok "sqlite:///srv/registrar/data/sqlite:roles.db?mode=rwc&cache=?")
      ∧ backend "sqlite:///srv/registrar/data/sqlite:roles.db?mode=rwc&cache=?" = .ok .sqlite := by
  have hok : absolutize "sqlite:data\\sqlite:roles.db?mode=rwc&cache=?" "/srv/registrar"
      = .ok "sqlite:///srv/registrar/data/sqlite:roles.db?mode=rwc&cache=?" := by decide +kernel
  have hscheme : leads "sqlite:" "sqlite:data\\sqlite:roles.db?mode=rwc&cache=?" = true := by decide
  have habsolute : Path.isAbsolute "/srv/registrar" = true := by decide
  obtain ⟨_, -, -, hresult⟩ := absolutize_sqlite hscheme habsolute (by decide) (by decide)
  obtain ⟨hfixed, hbackend, -⟩ := hresult _ hok
  exact ⟨hok, hfixed, hbackend⟩

end Dsn

end Registrar
