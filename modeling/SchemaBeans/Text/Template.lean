/-!
# Text — Template

Texts with gaps that are filled from a view, which has texts, flags and lists of views under keys.
A block stands once for a flag that is set and once for every view of a list, which then lies on
top of the views around it; an inverted block stands where there is nothing to stand for.  A key is
looked up in the topmost view that has it.

What fills a gap is inserted as it is, and not read as a template again.
-/

namespace SchemaBeans.Text

/-- What a view has under a key. -/
inductive Datum (Key : Type) where
  | text (text : String)
  | flag (isSet : Bool)
  | list (views : List (List (Key × Datum Key)))

/-- Data under keys. -/
abbrev View (Key : Type) := List (Key × Datum Key)

/-- A piece of a template. -/
inductive Piece (Key : Type) where
  | text (text : String)
  | gap (key : Key)
  | block (key : Key) (pieces : List (Piece Key))
  | inverted (key : Key) (pieces : List (Piece Key))

/-- A template. -/
abbrev Template (Key : Type) := List (Piece Key)

variable {Key : Type} [DecidableEq Key]

/-- What a view has under a key. -/
def View.get? (key : Key) : View Key → Option (Datum Key)
  | [] => none
  | (key', datum) :: view => if key' = key then some datum else View.get? key view

/-- What the topmost view that has the key has under it. -/
def lookup (key : Key) : List (View Key) → Option (Datum Key)
  | [] => none
  | view :: stack => (view.get? key).or (lookup key stack)

mutual

/-- The text of a piece, filled from a stack of views with the topmost first. -/
def Piece.render (stack : List (View Key)) : Piece Key → String
  | .text text => text
  | .gap key =>
    match lookup key stack with
    | some (.text text) => text
    | _ => ""
  | .block key pieces =>
    match lookup key stack with
    | some (.flag true) => renderPieces stack pieces
    | some (.list views) => String.join (views.map fun view => renderPieces (view :: stack) pieces)
    | _ => ""
  | .inverted key pieces =>
    match lookup key stack with
    | none | some (.flag false) | some (.list []) => renderPieces stack pieces
    | _ => ""

/-- The text of pieces one after the other. -/
def renderPieces (stack : List (View Key)) : List (Piece Key) → String
  | [] => ""
  | piece :: pieces => piece.render stack ++ renderPieces stack pieces

end

/-- The text of a template, filled from a view. -/
def Template.render (template : Template Key) (view : View Key) : String :=
  renderPieces [view] template

section Pieces

variable {stack : List (View Key)} {key : Key} {pieces pieces' : List (Piece Key)}

@[simp] theorem render_text (text : String) :
    (Piece.text text : Piece Key).render stack = text := by
  rw [Piece.render]

theorem render_gap : (Piece.gap key).render stack =
    match lookup key stack with
    | some (.text text) => text
    | _ => "" := by
  rw [Piece.render]

theorem render_gap_of_text {text : String} (h : lookup key stack = some (.text text)) :
    (Piece.gap key).render stack = text := by
  rw [render_gap, h]

/-- A block stands for a flag if the flag is set. -/
theorem render_block_of_flag {isSet : Bool} (h : lookup key stack = some (.flag isSet)) :
    (Piece.block key pieces).render stack = if isSet then renderPieces stack pieces else "" := by
  rw [Piece.render, h]
  cases isSet <;> rfl

/-- A block stands for every view of a list. -/
theorem render_block_of_list {views : List (View Key)}
    (h : lookup key stack = some (.list views)) :
    (Piece.block key pieces).render stack =
      String.join (views.map fun view => renderPieces (view :: stack) pieces) := by
  rw [Piece.render, h]

/-- An inverted block stands for a flag if the flag is not set. -/
theorem render_inverted_of_flag {isSet : Bool} (h : lookup key stack = some (.flag isSet)) :
    (Piece.inverted key pieces).render stack = if isSet then "" else renderPieces stack pieces := by
  rw [Piece.render, h]
  cases isSet <;> rfl

@[simp] theorem renderPieces_nil : renderPieces stack [] = "" := by
  rw [renderPieces]

@[simp] theorem renderPieces_cons (piece : Piece Key) :
    renderPieces stack (piece :: pieces) = piece.render stack ++ renderPieces stack pieces := by
  rw [renderPieces]

@[simp] theorem renderPieces_append :
    renderPieces stack (pieces ++ pieces') =
      renderPieces stack pieces ++ renderPieces stack pieces' := by
  induction pieces with
  | nil => simp
  | cons piece pieces ih => simp [ih, String.append_assoc]

end Pieces

end SchemaBeans.Text
