import Registrar.Sql.Select

/-!
The texts of statements. A statement is written as a list of pieces, so that its text and the values
bound to its placeholders come from one walk over it.
-/

namespace Registrar.Sql

inductive Piece where
  | text (content : String)
  | bind (value : Bound)
deriving DecidableEq, Repr

def Backend.quoteName (backend : Backend) (name : String) : String :=
  let mark := match backend with
    | .mysql => '`'
    | _ => '"'
  String.ofList (mark :: (name.toList.flatMap fun c => if c = mark then [mark, mark] else [c]) ++ [mark])

def Backend.escapeLiteral : Backend → String
  | .sqlite => "'\\'"
  | .postgres => "E'\\\\'"
  | .mysql => "'\\\\'"

def Backend.placeholder (backend : Backend) (number : Nat) : String :=
  match backend with
  | .postgres => s!"${number}"
  | _ => "?"

def comparisonSign : Comparison → String
  | .eq => " = "
  | .gt => " > "
  | .lt => " < "

namespace Condition

def isJunction : Condition → Bool
  | .any (_ :: _ :: _) => true
  | .all (_ :: _ :: _) => true
  | _ => false

def sameJunction : Condition → Bool → Bool
  | .any _, conjunctive => !conjunctive
  | .all _, conjunctive => conjunctive
  | _, _ => false

def parenthesized (parts : List Piece) : List Piece :=
  .text "(" :: parts ++ [.text ")"]

mutual

def pieces (backend : Backend) : Condition → List Piece
  | .any parts => junctionPieces backend false parts
  | .all parts => junctionPieces backend true parts
  | .compare column comparison value =>
    [.text (backend.quoteName column ++ comparisonSign comparison), .bind value]
  | .isNull column => [.text (backend.quoteName column ++ " IS NULL")]
  | .isNotNull column => [.text (backend.quoteName column ++ " IS NOT NULL")]
  | .like column pattern =>
    [.text (s!"LOWER({backend.quoteName column}) LIKE "), .bind (.text pattern),
      .text (" ESCAPE " ++ backend.escapeLiteral)]

/-- The parts of a junction. The first one keeps no parentheses if it is a junction of the same sort, all others that are junctions do. -/
def junctionPieces (backend : Backend) (conjunctive : Bool) : List Condition → List Piece
  | [] => [.text (if conjunctive then "TRUE" else "FALSE")]
  | [part] => pieces backend part
  | part :: other :: parts =>
    let first := pieces backend part
    (if part.isJunction && !part.sameJunction conjunctive then parenthesized first else first) ++
      restPieces backend conjunctive (other :: parts)

def restPieces (backend : Backend) (conjunctive : Bool) : List Condition → List Piece
  | [] => []
  | part :: parts =>
    let next := pieces backend part
    .text (if conjunctive then " AND " else " OR ") ::
      (if part.isJunction then parenthesized next else next) ++ restPieces backend conjunctive parts

end

end Condition

def orderWord : SortOrder → String
  | .asc => " ASC"
  | .desc => " DESC"

/-- A term of `ORDER BY`. MySQL has no placement of nulls, so a test for null is written before the column. -/
def OrderBy.text (backend : Backend) (table : String) : OrderBy → String
  | .isNull name order => backend.quoteName name ++ " IS NULL" ++ orderWord order
  | .column name order nulls =>
    let column := backend.quoteName table ++ "." ++ backend.quoteName name
    let plain := column ++ orderWord order
    match nulls, backend with
    | none, _ => plain
    | some placement, .mysql =>
      column ++ " IS NULL" ++ orderWord (nullOrder placement) ++ ", " ++ plain
    | some .first, _ => plain ++ " NULLS FIRST"
    | some .last, _ => plain ++ " NULLS LAST"

namespace Select

def pieces (backend : Backend) (select : Select) : List Piece :=
  let table := backend.quoteName select.table.name
  let columns := select.table.columns.map fun column => table ++ "." ++ backend.quoteName column
  let filter :=
    match select.filter with
    | none => []
    | some condition => .text " WHERE " :: condition.pieces backend
  let order := ", ".intercalate (select.order.map (OrderBy.text backend select.table.name))
  [.text ("SELECT " ++ ", ".intercalate columns ++ " FROM " ++ table)] ++ filter ++
    (if select.order.isEmpty then [] else [.text (" ORDER BY " ++ order)]) ++
    [.text " LIMIT ", .bind (.count select.limit)]

def textFrom (backend : Backend) (number : Nat) : List Piece → String
  | [] => ""
  | .text content :: rest => content ++ textFrom backend number rest
  | .bind _ :: rest => backend.placeholder number ++ textFrom backend (number + 1) rest

def text (backend : Backend) (select : Select) : String :=
  textFrom backend 1 (select.pieces backend)

def values (backend : Backend) (select : Select) : List Bound :=
  (select.pieces backend).filterMap fun
    | .bind value => some value
    | .text _ => none

end Select

end Registrar.Sql
