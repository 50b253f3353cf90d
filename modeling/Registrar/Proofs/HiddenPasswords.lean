import Registrar.Dsn.Connection

/-!
# Passwords in data source names

The password in a name stands between the first colon after the scheme and the last at sign, but it
is taken to end at the first at sign. So what follows the first at sign of a password is shown, and
two names that differ in their passwords alone are shown alike exactly if that is the same in both.
-/

namespace Registrar

namespace Text

section Marks

variable {c : Char} {front : List Char}

/-- A mark is found where its first character stands for the first time. -/
theorem cut_append (hfront : c ∉ front) (mark tail : List Char) :
    cut (c :: mark) (front ++ (c :: mark ++ tail)) = some (front, tail) := by
  induction front with
  | nil =>
      have hmark : dropLead (c :: mark) (c :: (mark ++ tail)) = some tail :=
        dropLead_eq_some_iff.mpr rfl
      rw [List.nil_append, List.cons_append, cut, hmark]
  | cons d front ih =>
      obtain ⟨hd, hfront⟩ := List.ne_and_not_mem_of_not_mem_cons hfront
      have hmark : dropLead (c :: mark) (d :: (front ++ (c :: mark ++ tail))) = none := by
        rw [dropLead, if_neg hd]
      rw [List.cons_append, cut, hmark, ih hfront]
      rfl

theorem cut_eq_none (hfront : c ∉ front) (mark : List Char) : cut (c :: mark) front = none := by
  induction front with
  | nil => rfl
  | cons d front ih =>
      obtain ⟨hd, hfront⟩ := List.ne_and_not_mem_of_not_mem_cons hfront
      rw [cut, dropLead, if_neg hd, ih hfront]
      rfl

theorem skipBlanks_append (hblank : isBlank c = false) (front tail : List Char) :
    skipBlanks (front ++ c :: tail) = skipBlanks front ++ c :: tail := by
  unfold skipBlanks
  rw [List.dropWhile_append, List.dropWhile_cons_of_neg (by simp [hblank])]
  split
  · next hfront => rw [List.isEmpty_iff.mp hfront, List.nil_append]
  · rfl

end Marks

section Texts

variable {c : Char} {mark front text : String} {marks : List Char}

theorem cut?_append (hmark : mark.toList = c :: marks) (hfront : c ∉ front.toList)
    (tail : String) : cut? mark (front ++ mark ++ tail) = some (front, tail) := by
  unfold cut?
  rw [String.toList_append, String.toList_append, List.append_assoc, hmark, cut_append hfront]
  simp

theorem cut?_eq_none (hmark : mark.toList = c :: marks) (htext : c ∉ text.toList) :
    cut? mark text = none := by
  unfold cut?
  rw [hmark, cut_eq_none htext]
  rfl

theorem exists_first_mark (hmark : mark.toList = [c]) (htext : c ∈ text.toList) :
    ∃ front tail : String, c ∉ front.toList ∧ text = front ++ mark ++ tail := by
  obtain ⟨front, tail, hsplit, hfront⟩ := List.eq_append_cons_of_mem htext
  refine ⟨String.ofList front, String.ofList tail, ?_, ?_⟩
  · rw [String.toList_ofList]
    exact hfront
  · rw [← String.toList_inj, hsplit]
    simp [hmark]

theorem eq_of_append_cons_eq {front front' tail tail' : List Char} (hfront : c ∉ front)
    (hfront' : c ∉ front') (hsame : front ++ c :: tail = front' ++ c :: tail') :
    front = front' := by
  have hcut : cut [c] (front ++ c :: tail) = some (front, tail) := cut_append hfront [] tail
  have hcut' : cut [c] (front' ++ c :: tail') = some (front', tail') := cut_append hfront' [] tail'
  rw [hsame, hcut'] at hcut
  exact (congrArg Prod.fst (Option.some.inj hcut)).symm

/-- Whether a name begins with a scheme can be told before its mark is passed, so the password has no say in it. -/
theorem leads_append_iff {word lead rest : String} {more : List Char}
    (hmark : mark.toList = c :: (marks ++ more)) (hlead : lead.toList = word.toList ++ c :: marks)
    (hword : c ∉ word.toList) (hfront : c ∉ front.toList) :
    leads lead (front ++ mark ++ rest) = decide (front = word) := by
  unfold leads
  rw [Bool.eq_iff_iff, decide_eq_true_iff, Option.isSome_iff_exists, hlead, String.toList_append,
    String.toList_append, hmark]
  constructor
  · rintro ⟨tail, htail⟩
    have hsplit := dropLead_eq_some_iff.mp htail
    rw [List.append_assoc, List.append_assoc, List.cons_append, List.cons_append] at hsplit
    exact String.toList_inj.mp (eq_of_append_cons_eq hfront hword hsplit)
  · rintro rfl
    refine ⟨more ++ rest.toList, dropLead_eq_some_iff.mpr ?_⟩
    simp

theorem trimStart_append (hmark : mark.toList = c :: marks) (hblank : isBlank c = false)
    (front tail : String) :
    trimStart (front ++ mark ++ tail) = trimStart front ++ mark ++ tail := by
  unfold trimStart
  rw [← String.toList_inj]
  simp only [String.toList_append, String.toList_ofList, List.append_assoc, hmark,
    List.cons_append, skipBlanks_append hblank]

end Texts

end Text

namespace Dsn

open Text

/-- A data source name without its password: a scheme, a user, and all that follows the at sign behind the password. -/
structure Login where
  scheme : String
  user : String
  place : String
  colon_notMem_scheme : ':' ∉ scheme.toList
  colon_notMem_user : ':' ∉ user.toList
  atSign_notMem_user : '@' ∉ user.toList

def Login.dsn (login : Login) (password : String) : String :=
  login.scheme ++ "://" ++ (login.user ++ ":" ++ password ++ "@" ++ login.place)

def Login.masked (login : Login) : String :=
  login.scheme ++ "://" ++ (login.user ++ ":***@" ++ login.place)

def exposed (password : String) : Option String :=
  (cut? "@" password).map Prod.snd

theorem atSign : "@".toList = ['@'] :=
  rfl

section Redact

variable {password : String}

theorem exposed_append {front tail : String} (hfront : '@' ∉ front.toList) :
    exposed (front ++ "@" ++ tail) = some tail := by
  unfold exposed
  rw [cut?_append atSign hfront]
  rfl

theorem exposed_eq_none_iff : exposed password = none ↔ '@' ∉ password.toList := by
  constructor
  · intro hnone hat
    obtain ⟨front, tail, hfront, rfl⟩ := exists_first_mark atSign hat
    rw [exposed_append hfront] at hnone
    contradiction
  · intro hat
    unfold exposed
    rw [cut?_eq_none atSign hat]
    rfl

/-- The password as far as it is shown, with the at sign behind it. -/
def shown (password : String) : String :=
  (exposed password).elim "" (· ++ "@")

/-- Of a password, the shown part tells no more and no less than what its first at sign exposes. -/
theorem shown_eq_iff {p q : String} : shown p = shown q ↔ exposed p = exposed q := by
  have hmarked : ∀ tail : String, tail ++ "@" ≠ "" := by
    intro tail hempty
    have hlength := congrArg String.length hempty
    simp at hlength
  unfold shown
  cases exposed p with
  | none =>
      cases exposed q with
      | none => exact iff_of_true rfl rfl
      | some tail => exact iff_of_false (hmarked tail).symm (Option.some_ne_none tail).symm
  | some front =>
      cases exposed q with
      | none => exact iff_of_false (hmarked front) (Option.some_ne_none front)
      | some tail => exact (String.append_left_inj "@").trans (Option.some_inj).symm

/-- What follows the scheme is parted at the first at sign, of the password or behind it. -/
theorem exists_cut_atSign (login : Login) (password : String) :
    ∃ hidden : String, cut? "@" (login.user ++ ":" ++ password ++ "@" ++ login.place)
      = some (login.user ++ ":" ++ hidden, shown password ++ login.place) := by
  by_cases hat : '@' ∈ password.toList
  · obtain ⟨hidden, tail, hhidden, rfl⟩ := exists_first_mark atSign hat
    have hfront : '@' ∉ (login.user ++ ":" ++ hidden).toList := by
      simp [login.atSign_notMem_user, hhidden]
    have hshown : shown (hidden ++ "@" ++ tail) = tail ++ "@" := by
      unfold shown
      rw [exposed_append hhidden]
      rfl
    have hcut := cut?_append atSign hfront (tail ++ "@" ++ login.place)
    refine ⟨hidden, ?_⟩
    rw [hshown]
    simp only [String.append_assoc] at hcut ⊢
    exact hcut
  · have hfront : '@' ∉ (login.user ++ ":" ++ password).toList := by
      simp [login.atSign_notMem_user, hat]
    refine ⟨password, ?_⟩
    unfold shown
    rw [cut?_append atSign hfront, exposed_eq_none_iff.mpr hat]
    simp

/-- Redaction stops at the first at sign, so the rest of a password that has one goes on in the shown name. -/
theorem redact_dsn (login : Login) (password : String) :
    redact (login.dsn password)
      = login.scheme ++ "://" ++ (login.user ++ ":***@" ++ (shown password ++ login.place)) := by
  obtain ⟨hidden, hat⟩ := exists_cut_atSign login password
  unfold redact Login.dsn
  rw [cut?_append rfl login.colon_notMem_scheme]
  dsimp only
  rw [hat]
  dsimp only
  rw [cut?_append rfl login.colon_notMem_user]
  simp only [String.append_assoc]

theorem redact_dsn_eq_iff (login : Login) (p q : String) :
    redact (login.dsn p) = redact (login.dsn q) ↔ exposed p = exposed q := by
  rw [redact_dsn, redact_dsn, String.append_right_inj, String.append_right_inj,
    String.append_left_inj, shown_eq_iff]

end Redact

section Schemes

def backendOf? (scheme : String) : Option Sql.Backend :=
  if scheme = "postgres" ∨ scheme = "postgresql" then some .postgres
  else if scheme = "mysql" then some .mysql
  else if scheme = "sqlite" then some .sqlite
  else none

def Login.trimmed (login : Login) : Login :=
  { login with
    scheme := trimStart login.scheme
    colon_notMem_scheme := by
      unfold trimStart
      rw [String.toList_ofList]
      exact fun hcolon => login.colon_notMem_scheme ((List.dropWhile_suffix _).mem hcolon) }

theorem trimStart_dsn (login : Login) (password : String) :
    trimStart (login.dsn password) = login.trimmed.dsn password := by
  have hmark : "://".toList = [':', '/', '/'] := rfl
  exact trimStart_append hmark (by decide) login.scheme _

theorem leads_dsn (word : String) {lead : String} {marks more : List Char}
    (hmark : "://".toList = ':' :: (marks ++ more))
    (hlead : lead.toList = word.toList ++ ':' :: marks) (hword : ':' ∉ word.toList)
    (login : Login) (password : String) :
    leads lead (login.dsn password) = decide (login.scheme = word) :=
  leads_append_iff hmark hlead hword login.colon_notMem_scheme

/-- Which database a name speaks of depends on its scheme alone. -/
theorem backend_dsn (login : Login) (password : String) :
    backend (login.dsn password)
      = match backendOf? login.trimmed.scheme with
        | some known => .ok known
        | none => .error (.unknown (redact (login.dsn password))) := by
  have hslashes : "://".toList = ':' :: (['/', '/'] ++ []) := rfl
  have hcolon : "://".toList = ':' :: ([] ++ ['/', '/']) := rfl
  unfold backend backendOf?
  dsimp only
  rw [trimStart_dsn, leads_dsn "postgres" hslashes rfl (by decide),
    leads_dsn "postgresql" hslashes rfl (by decide),
    leads_dsn "mysql" hslashes rfl (by decide),
    leads_dsn "sqlite" hcolon rfl (by decide)]
  simp only [Bool.or_eq_true, decide_eq_true_eq]
  split
  · rfl
  · split
    · rfl
    · split <;> rfl

theorem backend_dsn_eq_iff (login : Login) (p q : String) :
    backend (login.dsn p) = backend (login.dsn q)
      ↔ (∃ known, ∀ password, backend (login.dsn password) = .ok known) ∨ exposed p = exposed q := by
  have hbackend := backend_dsn login
  cases hknown : backendOf? login.trimmed.scheme with
  | some known =>
      rw [hknown] at hbackend
      rw [hbackend, hbackend]
      exact iff_of_true rfl (Or.inl ⟨known, hbackend⟩)
  | none =>
      rw [hknown] at hbackend
      have hunknown : ¬∃ known, ∀ password, backend (login.dsn password) = .ok known := by
        rintro ⟨known, hok⟩
        have hsame := (hbackend p).symm.trans (hok p)
        contradiction
      rw [hbackend, hbackend, or_iff_right hunknown, ← redact_dsn_eq_iff login]
      simp

end Schemes

/-- **Passwords in shown names.** A name is shown with stars in place of its whole password exactly if the password contains no at sign. Two names that differ in the password alone are told apart by what the log says of a connection, and by the refusal of an unknown scheme, exactly if something else follows the first at sign of the one password than of the other. -/
theorem passwords_shown_iff (login : Login) (p q : String) :
    (redact (login.dsn p) = login.masked ↔ '@' ∉ p.toList)
    ∧ (redact (login.dsn p) = redact (login.dsn q) ↔ exposed p = exposed q)
    ∧ (backend (login.dsn p) = backend (login.dsn q)
      ↔ (∃ known, ∀ password, backend (login.dsn password) = .ok known) ∨ exposed p = exposed q)
    ∧ ∀ (known : Sql.Backend) (writable writable' : Bool),
      Connection.notice ⟨known, trimStart (login.dsn p), writable⟩
          = Connection.notice ⟨known, trimStart (login.dsn q), writable'⟩
        ↔ exposed p = exposed q := by
  refine ⟨?_, redact_dsn_eq_iff login p q, backend_dsn_eq_iff login p q, ?_⟩
  · have hempty : exposed "" = none := rfl
    have hmasked : redact (login.dsn "") = login.masked := by
      rw [redact_dsn, shown, hempty, Option.elim_none, String.empty_append]
      rfl
    rw [← hmasked, redact_dsn_eq_iff, hempty, exposed_eq_none_iff]
  · intro known writable writable'
    unfold Connection.notice
    rw [trimStart_dsn, trimStart_dsn, Prod.mk.injEq, redact_dsn_eq_iff]
    exact and_iff_right rfl

def misspeltLogin : Login where
  scheme := "postgre"
  user := "app"
  place := "db/authz"
  colon_notMem_scheme := by decide
  colon_notMem_user := by decide
  atSign_notMem_user := by decide

/-- The refusal of the scheme tells the end of the password. -/
theorem password_told :
    misspeltLogin.dsn "p@ss" = "postgre://app:p@ss@db/authz"
    ∧ backend (misspeltLogin.dsn "p@ss") = .error (.unknown "postgre://app:***@ss@db/authz")
    ∧ redact (misspeltLogin.dsn "p@ss") ≠ misspeltLogin.masked
    ∧ backend (misspeltLogin.dsn "p@ss") ≠ backend (misspeltLogin.dsn "secret") := by
  obtain ⟨hmasked, -, hbackend, -⟩ := passwords_shown_iff misspeltLogin "p@ss" "secret"
  have htold : backend (misspeltLogin.dsn "p@ss")
      = .error (.unknown "postgre://app:***@ss@db/authz") := by rfl
  refine ⟨by decide, htold, mt hmasked.mp (by decide), mt hbackend.mp ?_⟩
  rintro (⟨known, hok⟩ | hsame)
  · rw [hok] at htold
    contradiction
  · exact absurd hsame (by decide)

end Dsn

end Registrar
