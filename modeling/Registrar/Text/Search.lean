/-!
Substring search and splitting of texts, as functions on lists of characters. The main statement
is `occurs_iff`: the search finds a needle exactly when it is a contiguous part of the text.
-/

namespace Registrar.Text

def occurs (needle : List Char) : List Char → Bool
  | [] => needle.isEmpty
  | c :: rest => needle.isPrefixOf (c :: rest) || occurs needle rest

def contains (text needle : String) : Bool :=
  occurs needle.toList text.toList

def dropLead : List Char → List Char → Option (List Char)
  | [], rest => some rest
  | _ :: _, [] => none
  | a :: lead, b :: rest => if a = b then dropLead lead rest else none

def leads (lead text : String) : Bool :=
  (dropLead lead.toList text.toList).isSome

def after? (lead text : String) : Option String :=
  (dropLead lead.toList text.toList).map String.ofList

def cut (mark : List Char) : List Char → Option (List Char × List Char)
  | [] => if mark.isEmpty then some ([], []) else none
  | c :: rest =>
    match dropLead mark (c :: rest) with
    | some tail => some ([], tail)
    | none => (cut mark rest).map fun parts => (c :: parts.1, parts.2)

def cut? (mark text : String) : Option (String × String) :=
  (cut mark.toList text.toList).map fun parts => (String.ofList parts.1, String.ofList parts.2)

def splitAt (mark : Char) : List Char → List (List Char)
  | [] => [[]]
  | c :: rest =>
    match splitAt mark rest with
    | [] => [[]]
    | piece :: pieces => if c = mark then [] :: piece :: pieces else (c :: piece) :: pieces

def split (mark : Char) (text : String) : List String :=
  (splitAt mark text.toList).map String.ofList

def isDigit (c : Char) : Bool :=
  '0' ≤ c && c ≤ '9'

def digitsValue (digits : List Char) : Nat :=
  digits.foldl (fun value c => value * 10 + (c.toNat - '0'.toNat)) 0

def hexDigit? (c : Char) : Option Nat :=
  if '0' ≤ c && c ≤ '9' then some (c.toNat - 48)
  else if 'a' ≤ c && c ≤ 'f' then some (c.toNat - 87)
  else if 'A' ≤ c && c ≤ 'F' then some (c.toNat - 55)
  else none

def asciiLower (c : Char) : Char :=
  if 'A' ≤ c && c ≤ 'Z' then Char.ofNat (c.toNat + 32) else c

def sameIgnoringAsciiCase (a b : String) : Bool :=
  a.toList.map asciiLower == b.toList.map asciiLower

theorem dropLead_eq_some_iff {lead text tail : List Char} :
    dropLead lead text = some tail ↔ text = lead ++ tail := by
  induction lead generalizing text with
  | nil => simp [dropLead]
  | cons a lead ih =>
    cases text with
    | nil => simp [dropLead]
    | cons b rest =>
      by_cases h : a = b
      · simp [dropLead, h, ih]
      · simp [dropLead, h, Ne.symm h]

theorem leads_iff {lead text : String} : leads lead text = true ↔ lead.toList <+: text.toList := by
  unfold leads
  rw [Option.isSome_iff_exists]
  exact exists_congr fun tail => dropLead_eq_some_iff.trans eq_comm

theorem after?_append (lead rest : String) : after? lead (lead ++ rest) = some rest := by
  have hrest : dropLead lead.toList (lead ++ rest).toList = some rest.toList :=
    dropLead_eq_some_iff.mpr String.toList_append
  unfold after?
  rw [hrest, Option.map_some, String.ofList_toList]

theorem after?_eq_none_iff {lead text : String} :
    after? lead text = none ↔ leads lead text = false := by
  unfold after? leads
  rw [Option.map_eq_none_iff, Option.isSome_eq_false_iff, Option.isNone_iff_eq_none]

theorem occurs_iff {needle text : List Char} : occurs needle text = true ↔ needle <:+: text := by
  induction text with
  | nil => simp [occurs, List.infix_nil]
  | cons c rest ih => simp [occurs, ih, List.infix_cons_iff]

end Registrar.Text
