/-
This file proves which types of a probe survive the removal of their prefixes.
-/

import Onvifxx.Construction.Matching

namespace Onvifxx.Daemon

open Tokens

/-- The items between the blanks of a text, each cut after its last colon. -/
def strippedItems (types : List Char) : List (List Char) :=
  (types.splitOn ' ').map (afterLast ':')

/-- The local names of a text are the cut tokens that are not empty. -/
def localNames (types : List Char) : List (List Char) :=
  ((tokens isSpace types).map (afterLast ':')).filter fun name => !name.isEmpty

/-- Only a blank may stand between a type with a local name and a later colon of its item. -/
def KeepsItem (item : List Char) : Prop :=
  ∀ before space after, item = before ++ space :: after → isSpace space = true → ':' ∈ after →
    ∀ token ∈ tokens isSpace before, token.getLast? = some ':'

/-- The part before an item ends at a blank, or the item starts the text. -/
theorem splitOn_before {before : List Char}
    (bounded : before = [] ∨ ∃ start, before = start ++ [' ']) :
    ∃ items, ∀ rest, (before ++ rest).splitOn ' ' = items ++ rest.splitOn ' ' := by
  rcases bounded with empty | ⟨start, ends⟩
  · exact ⟨[], fun rest => by rw [empty]; rfl⟩
  · refine ⟨start.splitOn ' ', fun rest => ?_⟩
    rw [ends, List.append_assoc]
    exact List.splitOn_append_cons_self start rest

/-- A prefix without a blank adds nothing to the stripped items. -/
theorem strippedItems_prefix {item : List Char} (whole : ' ' ∉ item) (rest : List Char) :
    strippedItems (item ++ ':' :: rest) = strippedItems rest := by
  apply map_afterLast_prefix
  intro character member
  rw [beq_eq_false_iff_ne]
  rintro rfl
  rcases List.mem_append.mp member with inside | colon
  · exact whole inside
  · simp at colon

/-- A turn keeps the stripped items of the text. -/
theorem stripTurn_items {types next : List Char} (taken : stripTurn types = some next) :
    strippedItems next = strippedItems types := by
  obtain ⟨before, item, rest, shape, shorter, _, whole, bounded⟩ := stripTurn_some taken
  obtain ⟨items, cut⟩ := splitOn_before bounded
  have same := strippedItems_prefix whole rest
  subst shape shorter
  simp only [strippedItems] at same ⊢
  rw [List.append_assoc, cut, cut, List.map_append, List.map_append, same]

/-- The loop leaves the stripped items between the same blanks. -/
theorem stripTypes_eq (types : List Char) :
    stripTypes types = joined ' ' (strippedItems types) := by
  obtain ⟨turns, _, ended⟩ := stripTypes_ends types
  have same : strippedItems (stripTypes types) = strippedItems types :=
    ended.invariant (fun state next kept taken => (stripTurn_items taken).trans kept) rfl
  rw [← same, strippedItems, List.splitOn_eq_splitOnP,
    map_afterLast_eq_self (stripTurn_eq_none.mp ended.left)]
  exact (List.intercalate_splitOn ' ').symm

/-- The loop leaves the tokens of the stripped items. -/
theorem tokens_stripTypes (types : List Char) :
    tokens isSpace (stripTypes types) =
      (types.splitOn ' ').flatMap fun item => tokens isSpace (afterLast ':' item) := by
  rw [stripTypes_eq, tokens_joined isSpace_blank, strippedItems, List.flatMap_map]

/-- A separator cuts the local names of a text in two. -/
theorem localNames_append_cons {space : Char} (cuts : isSpace space = true)
    (before after : List Char) :
    localNames (before ++ space :: after) = localNames before ++ localNames after := by
  simp [localNames, tokens_append_cons cuts]

/-- An empty part has an empty local name. -/
theorem localNames_eq (types : List Char) :
    localNames types =
      ((types.splitOnP isSpace).map (afterLast ':')).filter fun name => !name.isEmpty := by
  rw [localNames, tokens]
  induction types.splitOnP isSpace with
  | nil => rfl
  | cons part rest ih =>
      cases part with
      | nil => simpa [afterLast] using ih
      | cons first part =>
          simp only [List.filter_cons, List.isEmpty_cons, Bool.not_false, ↓reduceIte,
            List.map_cons, ih]

theorem localNames_eq_tokens {types : List Char} (clear : ':' ∉ types) :
    localNames types = tokens isSpace types := by
  rw [localNames_eq, map_afterLast_eq_self clear, tokens]

/-- A prefix without a separator adds nothing to the local names. -/
theorem localNames_prefix {item : List Char}
    (whole : ∀ character ∈ item, isSpace character = false) (rest : List Char) :
    localNames (item ++ ':' :: rest) = localNames rest := by
  rw [localNames_eq, localNames_eq, map_afterLast_prefix]
  intro character member
  rcases List.mem_append.mp member with inside | colon
  · exact whole character inside
  · rw [List.mem_singleton.mp colon]
    exact isSpace_colon

/-- A text without local names has only tokens that end with a colon. -/
theorem localNames_eq_nil {types : List Char} :
    localNames types = [] ↔ ∀ token ∈ tokens isSpace types, token.getLast? = some ':' := by
  have empty : ∀ token ∈ tokens isSpace types,
      (afterLast ':' token = [] ↔ token.getLast? = some ':') :=
    fun token member => afterLast_eq_nil (mem_tokens.mp member).2
  rw [localNames, List.filter_eq_nil_iff]
  simp only [List.mem_map, Bool.not_eq_true', Bool.not_eq_false, List.isEmpty_iff,
    forall_exists_index, and_imp, forall_apply_eq_imp_iff₂]
  exact forall₂_congr empty

/-- A character before some colon stands before the last one. -/
theorem before_lastColon {start after prior name : List Char} {first : Char}
    (same : start ++ first :: after = prior ++ ':' :: name) (colon : ':' ∈ after)
    (last : ':' ∉ name) : ∃ middle, prior = start ++ first :: middle := by
  obtain ⟨middle, tail, shape⟩ := List.append_of_mem colon
  have clear : ∀ character ∈ name, (character == ':') = false := by
    intro character member
    rw [beq_eq_false_iff_ne]
    rintro rfl
    exact last member
  have regrouped : (start ++ first :: middle) ++ ':' :: tail = prior ++ ':' :: name := by
    rw [← same, shape]
    simp
  rcases before_last (· == ':') regrouped (beq_self_eq_true ':') clear with ⟨equal, _⟩ | ⟨more, longer, _⟩
  · exact ⟨middle, equal.symm⟩
  · exact ⟨middle ++ ':' :: more, by rw [longer]; simp⟩

/-- An item with a white character before its last colon keeps the names after the last such one. -/
theorem keepsItem_iff {before rest name : List Char} {space : Char}
    (cuts : isSpace space = true) (clear : ∀ character ∈ rest, isSpace character = false)
    (last : ':' ∉ name) :
    KeepsItem (before ++ space :: (rest ++ ':' :: name)) ↔ localNames before = [] := by
  rw [localNames_eq_nil]
  constructor
  · intro kept
    exact kept before space (rest ++ ':' :: name) rfl cuts (by simp)
  · intro kept start first after shape white colon token member
    have same : start ++ first :: after = (before ++ space :: rest) ++ ':' :: name := by
      rw [← shape]
      simp
    obtain ⟨middle, prior⟩ := before_lastColon same colon last
    rcases before_last isSpace prior.symm white clear with ⟨equal, _⟩ | ⟨more, longer, _⟩
    · exact kept token (equal ▸ member)
    · apply kept token
      rw [longer, tokens_append_cons white]
      exact List.mem_append_left _ member

/-- An item without a white character before its last colon keeps its names. -/
theorem keepsItem_of_clear {item name : List Char}
    (clear : ∀ character ∈ item, isSpace character = false) (last : ':' ∉ name) :
    KeepsItem (item ++ ':' :: name) := by
  intro start first after shape white colon
  obtain ⟨middle, prior⟩ := before_lastColon shape.symm colon last
  have narrow := clear first (by simp [prior])
  rw [narrow] at white
  cases white

/-- An item loses the local names before the last white character that a colon follows. -/
theorem localNames_item (item : List Char) :
    ∃ lost, localNames item = lost ++ tokens isSpace (afterLast ':' item) ∧
      (lost = [] ↔ KeepsItem item) := by
  by_cases colon : ':' ∈ item
  · obtain ⟨prior, mark, name, shape, equal, clear⟩ :=
      exists_last_separator (· == ':') ⟨':', colon, beq_self_eq_true ':'⟩
    rw [beq_iff_eq] at equal
    subst equal shape
    have last : ':' ∉ name := fun member => by simpa using clear ':' member
    have tail : localNames name = tokens isSpace (afterLast ':' (prior ++ ':' :: name)) := by
      rw [afterLast_append_cons, afterLast_eq_self last, localNames_eq_tokens last]
    by_cases white : ∃ character ∈ prior, isSpace character = true
    · obtain ⟨before, space, rest, shape, cuts, whole⟩ := exists_last_separator isSpace white
      subst shape
      refine ⟨localNames before, ?_, ?_⟩
      · rw [← tail, List.append_assoc, List.cons_append, localNames_append_cons cuts,
          localNames_prefix whole]
      · rw [List.append_assoc, List.cons_append, keepsItem_iff cuts whole last]
    · have whole : ∀ character ∈ prior, isSpace character = false := by simpa using white
      refine ⟨[], ?_, ?_⟩
      · rw [← tail, localNames_prefix whole, List.nil_append]
      · simp [keepsItem_of_clear whole last]
  · refine ⟨[], ?_, ?_⟩
    · rw [localNames_eq_tokens colon, afterLast_eq_self colon, List.nil_append]
    · have kept : KeepsItem item := by
        intro start first after shape white follows
        exact absurd (by simp [shape, follows]) colon
      simp [kept]

/-- The local names of a text are those of its items. -/
theorem localNames_items (types : List Char) :
    localNames types = (types.splitOn ' ').flatMap localNames := by
  have parts : tokens isSpace types = (types.splitOn ' ').flatMap (tokens isSpace) := by
    rw [← tokens_joined isSpace_blank, joined, List.intercalate_splitOn]
  rw [localNames, parts, List.map_flatMap, List.filter_flatMap]
  rfl

/-- Two lists of which one extends each part of the other agree exactly when nothing is added. -/
theorem flatMap_eq_iff_of_append {A B : Type} {whole kept lost : A → List B}
    (parts : ∀ item, whole item = lost item ++ kept item) (items : List A) :
    items.flatMap kept = items.flatMap whole ↔ ∀ item ∈ items, lost item = [] := by
  have shorter : ∀ items : List A, (items.flatMap kept).length ≤ (items.flatMap whole).length := by
    intro items
    induction items with
    | nil => exact Nat.le_refl 0
    | cons item rest ih =>
        simp only [List.flatMap_cons, parts item, List.length_append]
        omega
  induction items with
  | nil => simp
  | cons item rest ih =>
      rw [List.forall_mem_cons, List.flatMap_cons, List.flatMap_cons, parts item]
      constructor
      · intro same
        have lengths := congrArg List.length same
        have bound := shorter rest
        simp only [List.length_append] at lengths
        have empty : lost item = [] := List.eq_nil_of_length_eq_zero (by omega)
        rw [empty, List.nil_append] at same
        exact ⟨empty, ih.mp (List.append_cancel_left same)⟩
      · rintro ⟨empty, others⟩
        rw [empty, ih.mpr others, List.nil_append]

/-- The loop keeps every type exactly when it keeps the types of each item between blanks. -/
theorem tokens_stripTypes_iff (types : List Char) :
    tokens isSpace (stripTypes types) = localNames types ↔
      ∀ item ∈ types.splitOn ' ', KeepsItem item := by
  choose lost parts kept using localNames_item
  rw [tokens_stripTypes, localNames_items, flatMap_eq_iff_of_append parts]
  exact forall₂_congr fun item _ => kept item

/-- A tab between two prefixed types lets the second prefix take the first type away. -/
theorem stripTypes_losesType :
    ¬ ∀ types : List Char, tokens isSpace (stripTypes types) = localNames types := by
  intro keeps
  have lost := keeps "a:b\tc:d".toList
  revert lost
  decide

end Onvifxx.Daemon
