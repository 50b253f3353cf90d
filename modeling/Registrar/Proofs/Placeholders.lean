import Registrar.Proofs.RequestTests
import Registrar.Sql.Statement

/-!
# Placeholders

Every placeholder begins with a mark of its own. Where no name of a table or a column holds the
mark, it stands nowhere else in a statement, whatever the statement looks for, so that the text has
one placeholder for each value that is bound.
-/

namespace Registrar.Sql

variable {backend : Backend} {fields : FieldMap}

def Backend.mark : Backend → Char
  | .postgres => '$'
  | _ => '?'

def Backend.Unmarked (backend : Backend) (text : String) : Prop :=
  backend.mark ∉ text.toList

instance (text : String) : Decidable (backend.Unmarked text) :=
  inferInstanceAs (Decidable (_ ∉ _))

def Piece.bound? : Piece → Option Bound
  | .text _ => none
  | .bind value => some value

def Piece.Unmarked (backend : Backend) : Piece → Prop
  | .text content => backend.Unmarked content
  | .bind _ => True

/-! ### Texts -/

theorem Backend.Unmarked.append {first second : String} (hfirst : backend.Unmarked first)
    (hsecond : backend.Unmarked second) : backend.Unmarked (first ++ second) := by
  unfold Unmarked
  rw [String.toList_append, List.mem_append]
  exact not_or.mpr ⟨hfirst, hsecond⟩

theorem Backend.Unmarked.intercalate {separator : String} {texts : List String}
    (hseparator : backend.Unmarked separator) (htexts : ∀ text ∈ texts, backend.Unmarked text) :
    backend.Unmarked (separator.intercalate texts) := by
  match texts with
  | [] => exact List.not_mem_nil
  | [text] => exact htexts text List.mem_cons_self
  | first :: second :: texts =>
      rw [String.intercalate_cons_cons]
      exact ((htexts first List.mem_cons_self).append hseparator).append
        (intercalate hseparator fun text htext => htexts text (List.mem_cons_of_mem _ htext))

theorem Backend.Unmarked.quoteName {name : String} (hname : backend.Unmarked name) :
    backend.Unmarked (backend.quoteName name) := by
  have hquoted : ∀ quote : Char, backend.mark ≠ quote → backend.mark ∉
      quote :: (name.toList.flatMap fun c => if c = quote then [quote, quote] else [c]) ++ [quote] := by
    intro quote hquote hmem
    simp only [List.cons_append, List.mem_cons, List.mem_append, List.mem_flatMap,
      List.not_mem_nil, or_false, hquote, false_or] at hmem
    obtain ⟨c, hc, hmark⟩ := hmem
    split at hmark
    · exact hquote (by simpa using hmark)
    · exact hname (List.mem_singleton.mp hmark ▸ hc)
  unfold Unmarked Backend.quoteName
  rw [String.toList_ofList]
  cases backend <;> exact hquoted _ (by decide)

/-- A placeholder has one mark, since digits are none. -/
theorem Backend.count_placeholder (backend : Backend) (number : Nat) :
    (backend.placeholder number).toList.count backend.mark = 1 := by
  have hplain : ("?").toList.count '?' = 1 := by decide
  cases backend with
  | postgres =>
      have hdigits : '$' ∉ Nat.toDigits 10 number := by
        intro hmem
        exact absurd (Nat.isDigit_of_mem_toDigits (by decide) (by decide) hmem) (by decide)
      have hwritten : (Backend.placeholder .postgres number).toList
          = '$' :: Nat.toDigits 10 number := by
        change ("$" ++ Nat.repr number).toList = _
        rw [String.toList_append, Nat.repr, String.toList_ofList, String.toList_ofList]
        rfl
      rw [hwritten]
      exact List.count_cons_self.trans (congrArg Nat.succ (List.count_eq_zero.mpr hdigits))
  | sqlite => exact hplain
  | mysql => exact hplain

/-- Marks are counted piece by piece, one for each place of a value. -/
theorem Select.count_mark_textFrom {pieces : List Piece}
    (hpieces : ∀ piece ∈ pieces, piece.Unmarked backend) (number : Nat) :
    (textFrom backend number pieces).toList.count backend.mark
      = (pieces.filterMap Piece.bound?).length := by
  induction pieces generalizing number with
  | nil => rfl
  | cons piece pieces ih =>
      obtain ⟨hpiece, hrest⟩ := List.forall_mem_cons.mp hpieces
      cases piece with
      | text content =>
          rw [textFrom, String.toList_append, List.count_append, ih hrest,
            List.count_eq_zero.mpr hpiece, Nat.zero_add]
          rfl
      | bind value =>
          rw [textFrom, String.toList_append, List.count_append, ih hrest,
            backend.count_placeholder, Nat.add_comm]
          rfl

/-! ### Conditions -/

namespace Condition

def Unmarked (backend : Backend) (condition : Condition) : Prop :=
  ∀ piece ∈ condition.pieces backend, piece.Unmarked backend

theorem unmarked_parenthesized {pieces : List Piece}
    (hpieces : ∀ piece ∈ pieces, piece.Unmarked backend) :
    ∀ piece ∈ parenthesized pieces, piece.Unmarked backend := by
  have hopen : backend.Unmarked "(" := by cases backend <;> decide
  have hclose : backend.Unmarked ")" := by cases backend <;> decide
  unfold parenthesized
  rw [List.cons_append, List.forall_mem_cons, List.forall_mem_append, List.forall_mem_singleton]
  exact ⟨hopen, hpieces, hclose⟩

theorem unmarked_restPieces (conjunctive : Bool) {parts : List Condition}
    (hparts : ∀ part ∈ parts, part.Unmarked backend) :
    ∀ piece ∈ restPieces backend conjunctive parts, piece.Unmarked backend := by
  have hword : backend.Unmarked (if conjunctive then " AND " else " OR ") := by
    cases backend <;> cases conjunctive <;> decide
  induction parts with
  | nil => exact fun piece hpiece => absurd hpiece List.not_mem_nil
  | cons part parts ih =>
      obtain ⟨hpart, hparts⟩ := List.forall_mem_cons.mp hparts
      rw [restPieces, List.cons_append, List.forall_mem_cons, List.forall_mem_append]
      refine ⟨hword, ?_, ih hparts⟩
      split
      · exact unmarked_parenthesized hpart
      · exact hpart

theorem unmarked_junctionPieces (conjunctive : Bool) {parts : List Condition}
    (hparts : ∀ part ∈ parts, part.Unmarked backend) :
    ∀ piece ∈ junctionPieces backend conjunctive parts, piece.Unmarked backend := by
  match parts with
  | [] =>
      have hword : backend.Unmarked (if conjunctive then "TRUE" else "FALSE") := by
        cases backend <;> cases conjunctive <;> decide
      exact List.forall_mem_singleton.mpr hword
  | [part] => exact hparts part List.mem_cons_self
  | part :: other :: parts =>
      obtain ⟨hpart, hparts⟩ := List.forall_mem_cons.mp hparts
      rw [junctionPieces, List.forall_mem_append]
      refine ⟨?_, unmarked_restPieces conjunctive hparts⟩
      split
      · exact unmarked_parenthesized hpart
      · exact hpart

theorem Unmarked.collapse {condition : Condition} (hcondition : condition.Unmarked backend) :
    condition.collapse.Unmarked backend := by
  unfold Condition.collapse
  split <;> exact hcondition

mutual

/-- A condition takes its names from the mapped columns. -/
theorem unmarked_ofPredicate {predicate : Predicate} {condition : Condition}
    (hfields : ∀ field column, fields.get? field = some column → backend.Unmarked column.column)
    (hcondition : ofPredicate fields predicate = .ok condition) : condition.Unmarked backend := by
  cases predicate with
  | any parts =>
      obtain ⟨conditions, hconditions, ⟨⟩⟩ := bind_eq_ok hcondition
      exact unmarked_junctionPieces false (unmarked_ofPredicates hfields hconditions)
  | all parts =>
      obtain ⟨conditions, hconditions, ⟨⟩⟩ := bind_eq_ok hcondition
      exact unmarked_junctionPieces true (unmarked_ofPredicates hfields hconditions)
  | compare field comparison value =>
      obtain ⟨column, bound, hcolumn, -, rfl⟩ := ofPredicate_compare_eq_ok hcondition
      have hsign : backend.Unmarked (comparisonSign comparison) := by
        cases backend <;> cases comparison <;> decide
      have hname := (hfields _ _ hcolumn).quoteName.append hsign
      exact List.forall_mem_cons.mpr ⟨hname, List.forall_mem_singleton.mpr trivial⟩
  | isNull field =>
      obtain ⟨column, hcolumn, ⟨⟩⟩ := bind_eq_ok hcondition
      have hword : backend.Unmarked " IS NULL" := by cases backend <;> decide
      exact List.forall_mem_singleton.mpr
        ((hfields _ _ (resolve_eq_ok hcolumn)).quoteName.append hword)
  | isNotNull field =>
      obtain ⟨column, hcolumn, ⟨⟩⟩ := bind_eq_ok hcondition
      have hword : backend.Unmarked " IS NOT NULL" := by cases backend <;> decide
      exact List.forall_mem_singleton.mpr
        ((hfields _ _ (resolve_eq_ok hcolumn)).quoteName.append hword)
  | contains field term =>
      obtain ⟨column, hcolumn, ⟨⟩⟩ := bind_eq_ok hcondition
      have hlower : backend.Unmarked "LOWER(" := by cases backend <;> decide
      have hlike : backend.Unmarked ") LIKE " := by cases backend <;> decide
      have hescape : backend.Unmarked (" ESCAPE " ++ backend.escapeLiteral) := by
        cases backend <;> decide
      have hname := (hlower.append (hfields _ _ (resolve_eq_ok hcolumn)).quoteName).append hlike
      exact List.forall_mem_cons.mpr
        ⟨hname, List.forall_mem_cons.mpr ⟨trivial, List.forall_mem_singleton.mpr hescape⟩⟩

theorem unmarked_ofPredicates {parts : List Predicate} {conditions : List Condition}
    (hfields : ∀ field column, fields.get? field = some column → backend.Unmarked column.column)
    (hconditions : ofPredicates fields parts = .ok conditions) :
    ∀ condition ∈ conditions, condition.Unmarked backend := by
  cases parts with
  | nil =>
      obtain rfl := Except.ok.inj hconditions
      exact fun condition hcondition => absurd hcondition List.not_mem_nil
  | cons part parts =>
      obtain ⟨first, hfirst, hcons⟩ := bind_eq_ok hconditions
      obtain ⟨rest, hrest, ⟨⟩⟩ := bind_eq_ok hcons
      exact List.forall_mem_cons.mpr
        ⟨(unmarked_ofPredicate hfields hfirst).collapse, unmarked_ofPredicates hfields hrest⟩

end

end Condition

/-! ### Statements -/

def OrderBy.name : OrderBy → String
  | .column name _ _ => name
  | .isNull name _ => name

theorem OrderBy.unmarked_text {table : String} {term : OrderBy} (htable : backend.Unmarked table)
    (hname : backend.Unmarked term.name) : backend.Unmarked (term.text backend table) := by
  have hword : ∀ order, backend.Unmarked (orderWord order) := by
    intro order
    cases backend <;> cases order <;> decide
  have hnull : backend.Unmarked " IS NULL" := by cases backend <;> decide
  have hdot : backend.Unmarked "." := by cases backend <;> decide
  have hcomma : backend.Unmarked ", " := by cases backend <;> decide
  have hfirst : backend.Unmarked " NULLS FIRST" := by cases backend <;> decide
  have hlast : backend.Unmarked " NULLS LAST" := by cases backend <;> decide
  cases term with
  | isNull name order => exact (hname.quoteName.append hnull).append (hword order)
  | column name order nulls =>
      have hcolumn := (htable.quoteName.append hdot).append hname.quoteName
      have hplain := hcolumn.append (hword order)
      cases nulls with
      | none => exact hplain
      | some placement =>
          cases backend with
          | mysql =>
              exact (((hcolumn.append hnull).append (hword _)).append hcomma).append hplain
          | sqlite =>
              cases placement
              · exact hplain.append hfirst
              · exact hplain.append hlast
          | postgres =>
              cases placement
              · exact hplain.append hfirst
              · exact hplain.append hlast

/-- The terms of an order take their names from the mapped columns as well. -/
theorem OrderBy.unmarked_ofTerms {dialect : Dialect} {terms : List OrderTerm}
    {orders : List OrderBy}
    (hfields : ∀ field column, fields.get? field = some column → backend.Unmarked column.column)
    (horders : OrderBy.ofTerms fields dialect terms = .ok orders) :
    ∀ order ∈ orders, backend.Unmarked order.name := by
  induction terms generalizing orders with
  | nil =>
      obtain rfl := Except.ok.inj horders
      exact fun order horder => absurd horder List.not_mem_nil
  | cons term terms ih =>
      obtain ⟨column, rest, hcolumn, hrest, rfl⟩ := ofTerms_cons_eq_ok horders
      have hname : ∀ order ∈ OrderBy.ofTerm dialect column term, order.name = column.column := by
        unfold OrderBy.ofTerm
        split
        · split <;> simp [OrderBy.name]
        · simp [OrderBy.name]
      refine List.forall_mem_append.mpr ⟨fun order horder => ?_, ih hrest⟩
      rw [hname order horder]
      exact hfields _ _ hcolumn

namespace Select

/-- Values are bound in the order in which their places stand in the text. -/
theorem values_eq_filterMap (backend : Backend) (select : Select) :
    select.values backend = (select.pieces backend).filterMap Piece.bound? := by
  unfold values
  congr 1
  funext piece
  cases piece <;> rfl

theorem unmarked_pieces {select : Select} (htable : backend.Unmarked select.table.name)
    (hcolumns : ∀ column ∈ select.table.columns, backend.Unmarked column)
    (hfilter : ∀ condition ∈ select.filter, condition.Unmarked backend)
    (horders : ∀ order ∈ select.order, backend.Unmarked order.name) :
    ∀ piece ∈ select.pieces backend, piece.Unmarked backend := by
  have hselect : backend.Unmarked "SELECT " := by cases backend <;> decide
  have hfrom : backend.Unmarked " FROM " := by cases backend <;> decide
  have hwhere : backend.Unmarked " WHERE " := by cases backend <;> decide
  have horderBy : backend.Unmarked " ORDER BY " := by cases backend <;> decide
  have hlimit : backend.Unmarked " LIMIT " := by cases backend <;> decide
  have hdot : backend.Unmarked "." := by cases backend <;> decide
  have hcomma : backend.Unmarked ", " := by cases backend <;> decide
  have hlisted : backend.Unmarked (", ".intercalate (select.table.columns.map fun column =>
      backend.quoteName select.table.name ++ "." ++ backend.quoteName column)) := by
    refine hcomma.intercalate (List.forall_mem_map.mpr fun column hcolumn => ?_)
    exact (htable.quoteName.append hdot).append (hcolumns column hcolumn).quoteName
  have hterms : backend.Unmarked
      (", ".intercalate (select.order.map (OrderBy.text backend select.table.name))) :=
    hcomma.intercalate (List.forall_mem_map.mpr fun order horder =>
      OrderBy.unmarked_text htable (horders order horder))
  unfold pieces
  dsimp only
  rw [List.forall_mem_append, List.forall_mem_append, List.forall_mem_append,
    List.forall_mem_singleton]
  refine ⟨⟨⟨((hselect.append hlisted).append hfrom).append htable.quoteName, ?_⟩, ?_⟩,
    List.forall_mem_cons.mpr ⟨hlimit, List.forall_mem_singleton.mpr trivial⟩⟩
  · cases hcondition : select.filter with
    | none => exact fun piece hpiece => absurd hpiece List.not_mem_nil
    | some condition => exact List.forall_mem_cons.mpr ⟨hwhere, hfilter condition hcondition⟩
  · split
    · exact fun piece hpiece => absurd hpiece List.not_mem_nil
    · exact List.forall_mem_singleton.mpr (horderBy.append hterms)

/-- A statement has as many placeholders as values, if the names in it are free of the mark. -/
theorem count_mark_text {table : Table} {dialect : Dialect} {request : RangeRequest}
    {select : Select} (htable : backend.Unmarked table.name)
    (hcolumns : ∀ column ∈ table.columns, backend.Unmarked column)
    (hfields : ∀ field column, fields.get? field = some column → backend.Unmarked column.column)
    (hbuild : Select.build table fields dialect request = .ok select) :
    (select.text backend).toList.count backend.mark = (select.values backend).length := by
  obtain ⟨rfl, -, hfilter, horders⟩ := build_eq_ok_iff.mp hbuild
  have hcondition : ∀ condition ∈ select.filter, condition.Unmarked backend := by
    intro condition hmem
    rw [Option.mem_def.mp hmem, Option.map_some, Option.map_eq_some_iff] at hfilter
    obtain ⟨predicate, -, hmade⟩ := hfilter
    exact Condition.unmarked_ofPredicate hfields hmade
  rw [values_eq_filterMap]
  exact count_mark_textFrom (unmarked_pieces htable hcolumns hcondition
    (OrderBy.unmarked_ofTerms hfields horders)) 1

end Select

end Registrar.Sql
