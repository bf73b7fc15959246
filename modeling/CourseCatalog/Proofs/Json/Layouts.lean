import CourseCatalog.Json.Document
/-!
# Layouts of JSON texts

The compact and the indented text of a value differ only in the spaces between their
parts. A layout says which spaces these are, so what holds of the text in every layout
holds of both.
-/

namespace CourseCatalog.Json

/-- What stands before an item or member at a depth, and after a colon: nothing but spaces. -/
structure Layout where
  gap : Nat → List Char
  afterColon : List Char
  isSpace_of_mem_gap : ∀ n, ∀ c ∈ gap n, isSpace c = true
  isSpace_of_mem_afterColon : ∀ c ∈ afterColon, isSpace c = true

mutual

/-- The text of a value in a layout. -/
def Value.laid (l : Layout) (depth : Nat) : Value → List Char
  | .null => ['n', 'u', 'l', 'l']
  | .bool b => boolText b
  | .number n => n.text
  | .string s => stringText s
  | .array [] => ['[', ']']
  | .array items => '[' :: laidItems l (depth + 1) items ++ l.gap depth ++ [']']
  | .object [] => ['\x7b', '\x7d']
  | .object members => '\x7b' :: laidMembers l (depth + 1) members ++ l.gap depth ++ ['\x7d']

/-- The text of items in a layout. -/
def laidItems (l : Layout) (depth : Nat) : List Value → List Char
  | [] => []
  | [v] => l.gap depth ++ v.laid l depth
  | v :: rest => l.gap depth ++ v.laid l depth ++ ',' :: laidItems l depth rest

/-- The text of members in a layout. -/
def laidMembers (l : Layout) (depth : Nat) : List (String × Value) → List Char
  | [] => []
  | [(name, v)] => l.gap depth ++ stringText name ++ ':' :: l.afterColon ++ v.laid l depth
  | (name, v) :: rest =>
    l.gap depth ++ stringText name ++ ':' :: l.afterColon ++ v.laid l depth ++ ',' :: laidMembers l depth rest

end

/-! ## The two printed forms -/

/-- Nothing between the parts. -/
def Layout.tight : Layout where
  gap _ := []
  afterColon := []
  isSpace_of_mem_gap _ _ h := absurd h List.not_mem_nil
  isSpace_of_mem_afterColon _ h := absurd h List.not_mem_nil

/-- Lines of their own for items and members. -/
def Layout.lined : Layout where
  gap := newLine
  afterColon := [' ']
  isSpace_of_mem_gap n c h := by
    rcases List.mem_cons.1 h with rfl | h
    · rfl
    · rw [(List.mem_replicate.1 h).2]
      rfl
  isSpace_of_mem_afterColon c h := by
    rw [List.mem_singleton.1 h]
    rfl

mutual

theorem Value.laid_tight (depth : Nat) : ∀ v : Value, v.laid .tight depth = v.compact
  | .null => rfl
  | .bool _ => rfl
  | .number _ => rfl
  | .string _ => rfl
  | .array [] => rfl
  | .array (v :: rest) => by
    rw [Value.laid, Value.compact, laidItems_tight]
    · simp [Layout.tight]
    · simp
  | .object [] => rfl
  | .object (m :: rest) => by
    rw [Value.laid, Value.compact, laidMembers_tight]
    · simp [Layout.tight]
    · simp

theorem laidItems_tight (depth : Nat) : ∀ vs : List Value, laidItems .tight depth vs = compactItems vs
  | [] => rfl
  | [v] => by
    rw [laidItems, compactItems, v.laid_tight]
    rfl
  | v :: w :: rest => by
    rw [laidItems, compactItems, v.laid_tight, laidItems_tight]
    · rfl
    · simp
    · simp

theorem laidMembers_tight (depth : Nat) :
    ∀ ms : List (String × Value), laidMembers .tight depth ms = compactMembers ms
  | [] => rfl
  | [(name, v)] => by
    rw [laidMembers, compactMembers, v.laid_tight]
    simp [Layout.tight]
  | (name, v) :: m :: rest => by
    rw [laidMembers, compactMembers, v.laid_tight, laidMembers_tight]
    · simp [Layout.tight]
    · simp
    · simp

end

mutual

theorem Value.laid_lined (depth : Nat) : ∀ v : Value, v.laid .lined depth = v.pretty depth
  | .null => rfl
  | .bool _ => rfl
  | .number _ => rfl
  | .string _ => rfl
  | .array [] => rfl
  | .array (v :: rest) => by
    rw [Value.laid, Value.pretty, laidItems_lined]
    · rfl
    · simp
    · simp
  | .object [] => rfl
  | .object (m :: rest) => by
    rw [Value.laid, Value.pretty, laidMembers_lined]
    · rfl
    · simp
    · simp

theorem laidItems_lined (depth : Nat) : ∀ vs : List Value, laidItems .lined depth vs = prettyItems depth vs
  | [] => rfl
  | [v] => by
    rw [laidItems, prettyItems, v.laid_lined]
    rfl
  | v :: w :: rest => by
    rw [laidItems, prettyItems, v.laid_lined, laidItems_lined]
    · rfl
    · simp
    · simp

theorem laidMembers_lined (depth : Nat) :
    ∀ ms : List (String × Value), laidMembers .lined depth ms = prettyMembers depth ms
  | [] => rfl
  | [(name, v)] => by
    rw [laidMembers, prettyMembers, v.laid_lined]
    simp [Layout.lined]
  | (name, v) :: m :: rest => by
    rw [laidMembers, prettyMembers, v.laid_lined, laidMembers_lined]
    · simp [Layout.lined]
    · simp
    · simp

end

end CourseCatalog.Json
