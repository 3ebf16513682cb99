/-
This file relates the tokens of a text to the cuts that a splitter makes in it.
-/

import Mathlib.Tactic
import Mathlib.Data.List.DropRight

namespace Onvifxx.Tokens

variable {A : Type*} {separator : A → Bool} {text : List A}

/-- The tokens are the maximal parts without a separator that are not empty. -/
def tokens (separator : A → Bool) (text : List A) : List (List A) :=
  (text.splitOnP separator).filter fun token => !token.isEmpty

/-- The splitter merges adjacent separators and keeps an empty part at each end. -/
def split (separator : A → Bool) : List A → List (List A)
  | [] => [[]]
  | first :: rest =>
      if separator first then
        if rest.head?.any separator then split separator rest else [] :: split separator rest
      else
        (split separator rest).modifyHead (first :: ·)

/-- The text is empty, or it begins or ends with a separator. -/
def Edge (separator : A → Bool) (text : List A) : Prop :=
  text.head?.all separator = true ∨ text.getLast?.all separator = true

instance (separator : A → Bool) (text : List A) : Decidable (Edge separator text) := by
  unfold Edge
  infer_instance

/-- This is the part of a text after the last mark, or the whole text without a mark. -/
def afterLast [DecidableEq A] (mark : A) (text : List A) : List A :=
  text.rtakeWhile (· ≠ mark)

def joined (separator : A) (items : List (List A)) : List A := [separator].intercalate items

theorem mem_tokens {token : List A} :
    token ∈ tokens separator text ↔ token ∈ text.splitOnP separator ∧ token ≠ [] := by
  simp [tokens]

@[simp] theorem tokens_nil : tokens separator [] = [] := rfl

/-- A separator cuts the tokens of a text in two. -/
theorem tokens_append_cons {space : A} (cuts : separator space) (before after : List A) :
    tokens separator (before ++ space :: after) =
      tokens separator before ++ tokens separator after := by
  simp [tokens, List.splitOnP_append_cons before after cuts]

/-- A start without a separator belongs to the first part. -/
theorem splitOnP_append_of_clear {start : List A}
    (clear : ∀ character ∈ start, separator character = false) (rest : List A) :
    (start ++ rest).splitOnP separator = (rest.splitOnP separator).modifyHead (start ++ ·) := by
  obtain ⟨first, parts, shape⟩ := List.exists_cons_of_ne_nil (List.splitOnP_ne_nil separator rest)
  induction start with
  | nil => simp [shape]
  | cons character start ih =>
      simp only [List.mem_cons, forall_eq_or_imp] at clear
      rw [List.cons_append, List.splitOnP_cons_eq_if_modifyHead, ih clear.2, shape]
      simp [clear.1]

/-- A part holds characters of the text alone, and no separator. -/
theorem mem_part {part : List A} {character : A} (cut : part ∈ text.splitOnP separator)
    (member : character ∈ part) : character ∈ text ∧ separator character = false := by
  induction text generalizing part with
  | nil =>
      rw [List.splitOnP_nil, List.mem_singleton] at cut
      simp [cut] at member
  | cons first text ih =>
      obtain ⟨head, parts, shape⟩ :=
        List.exists_cons_of_ne_nil (List.splitOnP_ne_nil separator text)
      rw [List.splitOnP_cons_eq_if_modifyHead, shape] at cut
      rw [shape] at ih
      by_cases space : separator first = true
      · rw [if_pos space] at cut
        rcases List.mem_cons.mp cut with empty | later
        · simp [empty] at member
        · exact ⟨List.mem_cons_of_mem first (ih later member).1, (ih later member).2⟩
      · rw [if_neg space, List.modifyHead_cons] at cut
        rcases List.mem_cons.mp cut with same | later
        · rw [same] at member
          rcases List.mem_cons.mp member with equal | inside
          · exact ⟨by simp [equal], by simpa [equal] using space⟩
          · have found := ih (List.mem_cons_self) inside
            exact ⟨List.mem_cons_of_mem first found.1, found.2⟩
        · have found := ih (List.mem_cons_of_mem head later) member
          exact ⟨List.mem_cons_of_mem first found.1, found.2⟩

/-- The first part begins where the text does. -/
theorem splitOnP_head (separator : A → Bool) (text : List A) :
    ∃ first rest, text.splitOnP separator = first :: rest ∧
      (first = [] ↔ text.head?.all separator = true) := by
  cases text with
  | nil => exact ⟨[], [], rfl, by simp⟩
  | cons character text =>
      rw [List.splitOnP_cons_eq_if_modifyHead]
      by_cases cuts : separator character = true
      · exact ⟨[], text.splitOnP separator, by simp [cuts], by simp [cuts]⟩
      · obtain ⟨first, rest, shape⟩ :=
          List.exists_cons_of_ne_nil (List.splitOnP_ne_nil separator text)
        exact ⟨character :: first, rest, by simp [cuts, shape], by simp [cuts]⟩

/-- The splitter and the plain cut share their first part and their parts that are not empty. -/
theorem split_parts (separator : A → Bool) (text : List A) :
    ∃ first rest cuts, split separator text = first :: rest ∧
      text.splitOnP separator = first :: cuts ∧
      (∀ part, part ≠ [] → (part ∈ rest ↔ part ∈ cuts)) ∧
      ([] ∈ rest ↔ text.getLast?.any separator = true) := by
  induction text with
  | nil => exact ⟨[], [], [], rfl, rfl, by simp, by simp⟩
  | cons character text ih =>
      obtain ⟨first, rest, cuts, parts, plain, same, ends⟩ := ih
      obtain ⟨head, tail, shape, begins⟩ := splitOnP_head separator text
      obtain ⟨rfl, rfl⟩ : first = head ∧ cuts = tail := by simpa [plain] using shape
      rw [List.splitOnP_cons_eq_if_modifyHead, split, plain, parts]
      by_cases cut : separator character = true
      · simp only [cut, ↓reduceIte]
        cases text with
        | nil =>
            obtain ⟨rfl, rfl⟩ : first = [] ∧ rest = [] := by simpa [split, eq_comm] using parts
            refine ⟨[], [[]], [] :: cuts, rfl, rfl, ?_, by simp [cut]⟩
            intro part proper
            simp [← same part proper, proper]
        | cons next text =>
            rw [List.getLast?_cons_cons]
            by_cases merged : separator next = true
            · have empty : first = [] := begins.mpr (by simp [merged])
              refine ⟨[], rest, first :: cuts, by simp [merged, empty], rfl, ?_, ends⟩
              intro part proper
              simp [same part proper, empty, proper]
            · have proper : first ≠ [] := fun empty => merged (by simpa using begins.mp empty)
              refine ⟨[], first :: rest, first :: cuts, by simp [merged], rfl, ?_, ?_⟩
              · intro part other
                simp [same part other]
              · simp [ends, proper.symm]
      · refine ⟨character :: first, rest, cuts, by simp [cut], by simp [cut], same, ?_⟩
        cases text with
        | nil =>
            obtain ⟨rfl, rfl⟩ : first = [] ∧ rest = [] := by simpa [split, eq_comm] using parts
            simp [cut]
        | cons next text => rw [List.getLast?_cons_cons, ends]

/-- The splitter finds the tokens, and an empty part exactly at an edge. -/
theorem mem_split {part : List A} :
    part ∈ split separator text ↔
      part ∈ tokens separator text ∨ part = [] ∧ Edge separator text := by
  obtain ⟨first, rest, cuts, parts, plain, same, ends⟩ := split_parts separator text
  obtain ⟨head, tail, shape, begins⟩ := splitOnP_head separator text
  obtain ⟨rfl, rfl⟩ : first = head ∧ cuts = tail := by simpa [plain] using shape
  rw [mem_tokens, parts, plain]
  by_cases empty : part = []
  · subst empty
    rw [List.mem_cons, ends, eq_comm, begins, Edge]
    cases text with
    | nil => simp
    | cons character text => simp [List.getLast?_cons]
  · simp [same part empty, empty]

theorem joined_cons (space : A) (first : List A) (rest : List (List A)) :
    joined space (first :: rest) = first ++ rest.flatMap (space :: ·) := by
  induction rest generalizing first with
  | nil => simp [joined]
  | cons next rest ih =>
      have shape : joined space (first :: next :: rest) =
          first ++ space :: joined space (next :: rest) := by
        simp [joined, List.intercalate_cons_cons]
      rw [shape, ih, List.flatMap_cons, List.cons_append]

theorem joined_concat (space : A) (items : List (List A)) (last : List A) :
    joined space (items ++ [last]) = items.flatMap (· ++ [space]) ++ last := by
  induction items with
  | nil => simp [joined]
  | cons item rest ih =>
      have shape : joined space (item :: (rest ++ [last])) =
          item ++ space :: joined space (rest ++ [last]) := by
        rw [joined, joined, List.intercalate_cons_of_ne_nil (by simp)]
        simp
      rw [List.cons_append, shape, ih]
      simp

/-- The tokens of a joined text are those of its items. -/
theorem tokens_joined {space : A} (cuts : separator space) (items : List (List A)) :
    tokens separator (joined space items) = items.flatMap (tokens separator) := by
  have tails : ∀ (first : List A) (rest : List (List A)),
      tokens separator (first ++ rest.flatMap (space :: ·)) =
        tokens separator first ++ rest.flatMap (tokens separator) := by
    intro first rest
    induction rest generalizing first with
    | nil => simp
    | cons next rest ih =>
        rw [List.flatMap_cons, List.cons_append, tokens_append_cons cuts, ih, List.flatMap_cons]
  cases items with
  | nil => rfl
  | cons first rest => rw [joined_cons, tails, List.flatMap_cons]

/-- A joined text has no edge exactly when its first item starts and its last item ends properly. -/
theorem not_edge_joined {space : A} (cuts : separator space = true) (items : List (List A)) :
    ¬ Edge separator (joined space items) ↔
      (∃ item ∈ items.head?, item.head?.all separator = false) ∧
        ∃ item ∈ items.getLast?, item.getLast?.all separator = false := by
  have starts : (joined space items).head?.all separator = true ↔
      ¬ ∃ item ∈ items.head?, item.head?.all separator = false := by
    cases items with
    | nil => simp [joined]
    | cons first rest =>
        rw [joined_cons]
        cases first with
        | nil => cases rest <;> simp [cuts]
        | cons character first => simp
  have ends : (joined space items).getLast?.all separator = true ↔
      ¬ ∃ item ∈ items.getLast?, item.getLast?.all separator = false := by
    rcases List.eq_nil_or_concat items with empty | ⟨rest, last, shape⟩
    · simp [empty, joined]
    · rw [shape, List.concat_eq_append, joined_concat]
      rcases List.eq_nil_or_concat last with void | ⟨start, character, longer⟩
      · rcases List.eq_nil_or_concat rest with none | ⟨front, item, other⟩
        · simp [void, none]
        · simp [void, other, cuts]
      · simp [longer]
  rw [Edge, starts, ends, not_or, not_not, not_not]

/-- A text has no separator, or it splits at its first one. -/
theorem separator_induction (separator : A → Bool) {holds : List A → Prop}
    (final : ∀ part, (∀ character ∈ part, separator character = false) → holds part)
    (closed : ∀ part space rest, (∀ character ∈ part, separator character = false) →
      separator space = true → holds rest → holds (part ++ space :: rest))
    (text : List A) : holds text := by
  -- The part before the first separator grows while the text is read.
  have grown : ∀ part, (∀ character ∈ part, separator character = false) → holds (part ++ text) := by
    induction text with
    | nil =>
        intro part clear
        rw [List.append_nil]
        exact final part clear
    | cons first rest ih =>
        intro part clear
        cases cuts : separator first with
        | true => exact closed part first rest clear cuts (ih [] (by simp))
        | false =>
            have longer := ih (part ++ [first]) (by
              intro character member
              rcases List.mem_append.mp member with inside | last
              · exact clear character inside
              · rw [List.mem_singleton.mp last, cuts])
            rwa [List.append_assoc] at longer
  exact grown [] (by simp)

/-- A text with a separator has a last one. -/
theorem exists_last_separator (separator : A → Bool) (present : ∃ character ∈ text, separator character = true) :
    ∃ before space after, text = before ++ space :: after ∧ separator space = true ∧
      ∀ character ∈ after, separator character = false := by
  induction text with
  | nil => simp at present
  | cons first rest ih =>
      by_cases later : ∃ character ∈ rest, separator character = true
      · obtain ⟨before, space, after, shape, cuts, clear⟩ := ih later
        exact ⟨first :: before, space, after, by rw [shape]; rfl, cuts, clear⟩
      · have clear : ∀ character ∈ rest, separator character = false := by simpa using later
        refine ⟨[], first, rest, rfl, ?_, clear⟩
        obtain ⟨character, member, cuts⟩ := present
        rcases List.mem_cons.mp member with same | inside
        · exact same ▸ cuts
        · exact absurd ⟨character, inside, cuts⟩ later

/-- No separator stands after the last one. -/
theorem before_last (separator : A → Bool) {before after start rest : List A} {space last : A}
    (same : before ++ space :: after = start ++ last :: rest)
    (cuts : separator space = true) (clear : ∀ character ∈ rest, separator character = false) :
    (before = start ∧ after = rest) ∨
      ∃ middle, start = before ++ space :: middle ∧ after = middle ++ last :: rest := by
  rcases List.append_eq_append_iff.mp same with ⟨more, longer, remains⟩ | ⟨more, longer, remains⟩
  · cases more with
    | nil =>
        obtain ⟨_, tail⟩ := List.cons.inj remains
        exact Or.inl ⟨by simpa using longer.symm, tail⟩
    | cons first middle =>
        obtain ⟨head, tail⟩ := List.cons.inj remains
        exact Or.inr ⟨middle, by rw [longer, head], tail⟩
  · cases more with
    | nil =>
        obtain ⟨_, tail⟩ := List.cons.inj remains
        exact Or.inl ⟨by simpa using longer, tail.symm⟩
    | cons first middle =>
        obtain ⟨_, tail⟩ := List.cons.inj remains
        have member : space ∈ rest := by simp [tail]
        rw [clear space member] at cuts
        cases cuts

section AfterLast

variable [DecidableEq A] {mark : A}

/-- Nothing before a mark belongs to the part after the last mark. -/
theorem afterLast_append_cons (before after : List A) :
    afterLast mark (before ++ mark :: after) = afterLast mark after := by
  induction after using List.reverseRecOn with
  | nil =>
      simp [afterLast]
  | append_singleton after last ih =>
      have shape : before ++ mark :: (after ++ [last]) = (before ++ mark :: after) ++ [last] := by
        simp
      simp only [afterLast] at ih
      rw [afterLast, afterLast, shape, List.rtakeWhile_concat, List.rtakeWhile_concat, ih]

theorem afterLast_eq_self (absent : mark ∉ text) : afterLast mark text = text := by
  rw [afterLast, List.rtakeWhile_eq_self_iff]
  intro character member
  simpa using fun same : character = mark => absent (same ▸ member)

/-- A prefix that ends in a mark leaves no trace in the cut parts. -/
theorem map_afterLast_prefix {start : List A}
    (clear : ∀ character ∈ start ++ [mark], separator character = false) (rest : List A) :
    ((start ++ mark :: rest).splitOnP separator).map (afterLast mark) =
      (rest.splitOnP separator).map (afterLast mark) := by
  obtain ⟨first, parts, shape⟩ := List.exists_cons_of_ne_nil (List.splitOnP_ne_nil separator rest)
  have cut := splitOnP_append_of_clear clear rest
  rw [List.append_assoc, List.singleton_append] at cut
  rw [cut, shape]
  simp [afterLast_append_cons]

theorem map_afterLast_eq_self (absent : mark ∉ text) :
    (text.splitOnP separator).map (afterLast mark) = text.splitOnP separator := by
  have same : ∀ part ∈ text.splitOnP separator, afterLast mark part = id part := by
    intro part cut
    exact afterLast_eq_self fun member => absent (mem_part cut member).1
  rw [List.map_congr_left same, List.map_id]

/-- The part after the last mark is empty exactly when nothing or the mark ends the text. -/
theorem afterLast_eq_nil (proper : text ≠ []) :
    afterLast mark text = [] ↔ text.getLast? = some mark := by
  rw [afterLast, List.rtakeWhile_eq_nil_iff, List.getLast?_eq_some_getLast proper]
  simp [proper]

end AfterLast

end Onvifxx.Tokens
