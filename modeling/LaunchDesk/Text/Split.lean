/-!
# Texts cut at a separator

Main statements: no part has a separator in it, and parts that have none are found again in the text
that they are joined to.
-/

namespace LaunchDesk.Text

/-- The parts of a text between the occurrences of a character; one part more than there are
occurrences. -/
def splitAt (separator : Char) : List Char → List (List Char)
  | [] => [[]]
  | c :: rest =>
      if c = separator then [] :: splitAt separator rest
      else
        match splitAt separator rest with
        | [] => [[c]]
        | part :: parts => (c :: part) :: parts

theorem splitAt_ne_nil (separator : Char) (s : List Char) : splitAt separator s ≠ [] := by
  induction s with
  | nil => simp [splitAt]
  | cons c rest ih =>
    unfold splitAt
    split
    · simp
    · split <;> simp

/-- A separator cuts a text in two. -/
theorem splitAt_append (separator : Char) (s t : List Char) :
    splitAt separator (s ++ separator :: t) = splitAt separator s ++ splitAt separator t := by
  induction s with
  | nil => simp [splitAt]
  | cons c s ih =>
      simp only [List.cons_append, splitAt, ih]
      split
      · rfl
      · obtain ⟨part, parts, hp⟩ := List.exists_cons_of_ne_nil (splitAt_ne_nil separator s)
        simp [hp]

theorem flatMap_splitAt (separator : Char) (s : List Char) :
    (splitAt separator s).flatMap (fun part => separator :: part) = separator :: s := by
  induction s with
  | nil => rfl
  | cons c s ih =>
      unfold splitAt
      split
      · next h => simp [ih, h]
      · obtain ⟨part, parts, hp⟩ := List.exists_cons_of_ne_nil (splitAt_ne_nil separator s)
        rw [hp] at ih ⊢
        simpa using ih

theorem splitAt_of_not_mem {separator : Char} {s : List Char} (h : separator ∉ s) :
    splitAt separator s = [s] := by
  induction s with
  | nil => rfl
  | cons c s ih =>
      have hc : ¬ c = separator := fun hc => h (hc ▸ List.mem_cons_self)
      have hs : separator ∉ s := fun hs => h (List.mem_cons_of_mem c hs)
      unfold splitAt
      rw [if_neg hc, ih hs]

/-- Parts without a separator are found again in the text that they are joined to. -/
theorem splitAt_intercalate {separator : Char} {parts : List (List Char)} (hne : parts ≠ [])
    (h : ∀ part ∈ parts, separator ∉ part) :
    splitAt separator (List.intercalate [separator] parts) = parts := by
  induction parts with
  | nil => exact absurd rfl hne
  | cons part parts ih =>
      have hpart : splitAt separator part = [part] :=
        splitAt_of_not_mem (h part List.mem_cons_self)
      cases parts with
      | nil => simpa using hpart
      | cons next parts =>
          have hrest := ih (List.cons_ne_nil _ _) fun p hp => h p (List.mem_cons_of_mem _ hp)
          rw [List.intercalate_cons_cons, List.append_assoc, List.singleton_append, splitAt_append,
            hpart, hrest, List.singleton_append]

theorem not_mem_of_mem_splitAt {separator : Char} {s part : List Char}
    (h : part ∈ splitAt separator s) : separator ∉ part := by
  induction s generalizing part with
  | nil =>
      obtain rfl := List.mem_singleton.mp h
      exact List.not_mem_nil
  | cons c s ih =>
      unfold splitAt at h
      split at h
      · rcases List.mem_cons.mp h with rfl | h
        · exact List.not_mem_nil
        · exact ih h
      · next hc =>
          obtain ⟨first, parts, hp⟩ := List.exists_cons_of_ne_nil (splitAt_ne_nil separator s)
          rw [hp] at h ih
          rcases List.mem_cons.mp h with rfl | h
          · intro hm
            rcases List.mem_cons.mp hm with rfl | hm
            · exact hc rfl
            · exact ih List.mem_cons_self hm
          · exact ih (List.mem_cons_of_mem _ h)

end LaunchDesk.Text
