/-!
# Generated code as text

Lines, and lists of things in a call or a parameter list.
-/

namespace MockGen.Code

def lines : List String → String
  | [] => ""
  | line :: rest => line ++ "\n" ++ lines rest

@[simp] theorem lines_nil : lines [] = "" := rfl

@[simp] theorem lines_cons (line : String) (rest : List String) :
    lines (line :: rest) = line ++ "\n" ++ lines rest := rfl

theorem lines_append (a b : List String) : lines (a ++ b) = lines a ++ lines b := by
  induction a with
  | nil => simp
  | cons line rest ih => simp [ih, String.append_assoc]

def only (condition : Bool) (ls : List String) : List String :=
  if condition then ls else []

@[simp] theorem only_true (ls : List String) : only true ls = ls := rfl

@[simp] theorem only_false (ls : List String) : only false ls = [] := rfl

def concat : List String → String
  | [] => ""
  | s :: rest => s ++ concat rest

@[simp] theorem concat_nil : concat [] = "" := rfl

@[simp] theorem concat_cons (s : String) (rest : List String) :
    concat (s :: rest) = s ++ concat rest := rfl

theorem concat_append (a b : List String) : concat (a ++ b) = concat a ++ concat b := by
  induction a with
  | nil => simp
  | cons s rest ih => simp [ih, String.append_assoc]

theorem concat_of_forall {P : String → Prop} (hnil : P "")
    (happend : ∀ {t u}, P t → P u → P (t ++ u)) {ts : List String} (h : ∀ t ∈ ts, P t) :
    P (concat ts) := by
  induction ts with
  | nil => exact hnil
  | cons t ts ih =>
    rw [List.forall_mem_cons] at h
    exact happend h.1 (ih h.2)

@[irreducible] def callField (name : String) : String :=
  "cmock_call_instance->" ++ name

@[irreducible] def mockField (f name : String) : String :=
  "Mock." ++ f ++ "_" ++ name

def commas (items : List String) : String :=
  ", ".intercalate items

end MockGen.Code
