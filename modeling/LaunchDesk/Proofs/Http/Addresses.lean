import LaunchDesk.Http.Url
import Mathlib.Data.List.TakeWhile

/-!
# Addresses with a common start

Addresses that differ only in a plain end have the same server, and their texts differ only in this
end: reading changes the start in the same way for all of them and leaves the end as it is. If one
of them is no address, then none is.

## Implementation notes

Each step that takes an address apart is shown to leave the end where it is. The end may come to
stand in the path, in the query or in the fragment, depending on the start alone; only in the last
case is it no part of what a server is asked for.
-/

namespace LaunchDesk.Http

open Text

/-- A digit or a small letter. -/
@[reducible] def Letter (c : Char) : Prop :=
  (0x30 ≤ c.toNat ∧ c.toNat ≤ 0x39) ∨ (0x61 ≤ c.toNat ∧ c.toNat ≤ 0x7A)

/-- An end of an address, of digits, small letters and slashes. -/
def Plain (t : List Char) : Prop :=
  ∀ c ∈ t, c = '/' ∨ Letter c

instance (t : List Char) : Decidable (Plain t) :=
  List.decidableBAll _ t

/-- What a test finds of all characters of a text holds of each. It looks at these alone, not at all
characters there are. -/
theorem forall_mem_of_all {p : Char → Prop} [DecidablePred p] {s : List Char}
    (h : s.all (fun c => decide (p c)) = true) : ∀ c ∈ s, p c :=
  fun c hc => of_decide_eq_true (List.all_eq_true.mp h c hc)

section Cutting

variable {α : Type} {p : α → Bool} {s t : List α}

/-- A cut inside the start of a text does not depend on its end. -/
theorem takeWhile_append_of_not_all (h : ¬ ∀ a ∈ s, p a) :
    (s ++ t).takeWhile p = s.takeWhile p := by
  rw [List.takeWhile_append, if_neg]
  intro hlength
  exact h (List.takeWhile_eq_self_iff.mp ((List.takeWhile_prefix p).eq_of_length hlength))

theorem dropWhile_append_of_not_all (h : ¬ ∀ a ∈ s, p a) :
    (s ++ t).dropWhile p = s.dropWhile p ++ t := by
  rw [List.dropWhile_append, if_neg]
  rwa [List.isEmpty_iff, List.dropWhile_eq_nil_iff]

/-- An element at which a text is cut at the latest belongs to the end. -/
theorem takeWhile_append_stop {a : α} (ha : p a = false) :
    (s ++ a :: t).takeWhile p = s.takeWhile p := by
  by_cases hall : ∀ b ∈ s, p b
  · rw [List.takeWhile_append_of_pos hall, List.takeWhile_cons_of_neg (by simp [ha]),
      List.append_nil, List.takeWhile_eq_self_iff.mpr hall]
  · exact takeWhile_append_of_not_all hall

theorem dropWhile_append_stop {a : α} (ha : p a = false) :
    (s ++ a :: t).dropWhile p = s.dropWhile p ++ a :: t := by
  by_cases hall : ∀ b ∈ s, p b
  · rw [List.dropWhile_append_of_pos hall, List.dropWhile_cons_of_neg (by simp [ha]),
      List.dropWhile_eq_nil_iff.mpr hall, List.nil_append]
  · exact dropWhile_append_of_not_all hall

theorem drop_length_takeWhile : s.drop (s.takeWhile p).length = s.dropWhile p := by
  have h : (s.takeWhile p ++ s.dropWhile p).drop (s.takeWhile p).length = s.dropWhile p :=
    List.drop_left
  rwa [List.takeWhile_append_dropWhile] at h

end Cutting

namespace Plain

variable {t : List Char}

/-- A plain end has no sign but slashes. -/
theorem ne (h : Plain t) {c d : Char} (hc : c ∈ t) (hd : ¬ Letter d) (hslash : d ≠ '/') :
    c ≠ d := by
  rintro rfl
  exact (h c hc).elim hslash hd

theorem escape_eq (h : Plain t) (barred : List Char)
    (hb : (barred.all fun c => decide (¬ Letter c)) = true) (hslash : '/' ∉ barred) :
    Url.escape barred t = t := by
  unfold Url.escape
  induction t with
  | nil => rfl
  | cons c t ih =>
      obtain ⟨hc, ht⟩ := List.forall_mem_cons.mp h
      have hbarred : c ∉ barred := by
        intro hmem
        rcases hc with rfl | hletter
        · exact hslash hmem
        · exact forall_mem_of_all hb c hmem hletter
      have hcode : 0x20 < c.toNat ∧ c.toNat < 0x7F := by
        rcases hc with rfl | hletter
        · decide
        · omega
      rw [List.flatMap_cons, ih ht, if_neg (by simpa [hbarred] using hcode)]
      rfl

/-- The parts of a plain end are names. -/
theorem parts (h : Plain t) : ∀ part ∈ splitAt '/' t, ∀ c ∈ part, Letter c := by
  induction t with
  | nil => simp [splitAt]
  | cons c t ih =>
      obtain ⟨hc, ht⟩ := List.forall_mem_cons.mp h
      have hparts := ih ht
      unfold splitAt
      split
      · simpa using hparts
      · next hslash =>
          have hletter := hc.resolve_left hslash
          split
          · simpa using hletter
          · next part parts heq =>
              rw [heq, List.forall_mem_cons] at hparts
              simp only [List.forall_mem_cons]
              exact ⟨⟨hletter, hparts.1⟩, hparts.2⟩

end Plain

section Paths

variable {t : List Char}

/-- A name is no step of a path. -/
theorem not_step {part : List Char} (h : ∀ c ∈ part, Letter c) :
    Url.goesUp part = false ∧ Url.stays part = false := by
  have hlower : part.map Char.toLower = part := by
    refine (List.map_congr_left fun c hc => ?_).trans (List.map_id part)
    have hletter := h c hc
    refine dif_neg ?_
    rintro ⟨hlower, hupper⟩
    have hge : 65 ≤ c.toNat := hlower
    have hle : c.toNat ≤ 90 := hupper
    omega
  -- A step has a dot or a percent sign.
  have hne : ∀ s : String, (s.toList.all fun c => decide (Letter c)) = false →
      String.ofList part ≠ s := by
    rintro s hno rfl
    have hall : (part.all fun c => decide (Letter c)) = true :=
      List.all_eq_true.mpr fun c hc => decide_eq_true (h c hc)
    rw [String.toList_ofList, hall] at hno
    cases hno
  simp only [Url.goesUp, Url.stays, hlower, List.contains_eq_mem, decide_eq_false_iff_not,
    List.mem_cons, List.not_mem_nil, or_false, not_or]
  exact ⟨⟨hne _ (by decide), hne _ (by decide), hne _ (by decide), hne _ (by decide)⟩,
    hne _ (by decide), hne _ (by decide)⟩

/-- Names are left as they are. -/
theorem walk_names (done : List (List Char)) {names : List (List Char)}
    (h : ∀ part ∈ names, ∀ c ∈ part, Letter c) :
    Url.walk done names = done ++ names := by
  induction names generalizing done with
  | nil => exact (List.append_nil done).symm
  | cons part names ih =>
      obtain ⟨hpart, hnames⟩ := List.forall_mem_cons.mp h
      obtain ⟨hup, hstay⟩ := not_step hpart
      have hplain : Plain part := fun c hc => Or.inr (hpart c hc)
      have hescape := hplain.escape_eq "\"#<>?`\x7b\x7d".toList (by decide) (by decide)
      rw [Url.walk]
      simp only [hup, hstay, hescape, Bool.false_eq_true, if_false]
      rw [ih _ hnames, List.append_assoc, List.singleton_append]

/-- What a path has come to when only names follow does not depend on them. -/
theorem walk_append (done start : List (List Char)) : ∃ walked, ∀ names : List (List Char),
    names ≠ [] → (∀ part ∈ names, ∀ c ∈ part, Letter c) →
      Url.walk done (start ++ names) = walked ++ names := by
  induction start generalizing done with
  | nil => exact ⟨done, fun names _ h => walk_names done h⟩
  | cons part start ih =>
      have hmore : ∀ names : List (List Char), names ≠ [] → (start ++ names).isEmpty = false := by
        intro names hne
        simp [hne]
      -- Behind a step there is always more, so it leaves nothing.
      by_cases hup : Url.goesUp part
      · obtain ⟨walked, hw⟩ := ih done.dropLast
        refine ⟨walked, fun names hne h => ?_⟩
        rw [List.cons_append, Url.walk]
        simpa [hup, hmore names hne] using hw names hne h
      · by_cases hstay : Url.stays part
        · obtain ⟨walked, hw⟩ := ih done
          refine ⟨walked, fun names hne h => ?_⟩
          rw [List.cons_append, Url.walk]
          simpa [hup, hstay, hmore names hne] using hw names hne h
        · obtain ⟨walked, hw⟩ := ih (done ++ [Url.escape "\"#<>?`\x7b\x7d".toList part])
          refine ⟨walked, fun names hne h => ?_⟩
          rw [List.cons_append, Url.walk]
          simpa [hup, hstay] using hw names hne h

/-- A plain end behind a slash stays at the end of a path. -/
theorem path_append (s : List Char) :
    ∃ walked, ∀ t, Plain t → Url.path (s ++ '/' :: t) = walked ++ '/' :: t := by
  have hparts : ∃ start, ∀ t, Plain t →
      splitAt '/' (((s ++ '/' :: t).map fun c => if c = '\\' then '/' else c).drop 1) =
        start ++ splitAt '/' t := by
    have hmap : ∀ t, Plain t → (t.map fun c => if c = '\\' then '/' else c) = t := by
      intro t ht
      refine (List.map_congr_left fun c hc => ?_).trans (List.map_id t)
      exact if_neg (ht.ne hc (by decide) (by decide))
    cases s with
    | nil => exact ⟨[], fun t ht => by simp [hmap t ht]⟩
    | cons c s =>
        refine ⟨splitAt '/' (s.map fun c => if c = '\\' then '/' else c), fun t ht => ?_⟩
        rw [← splitAt_append]
        simp [hmap t ht]
  obtain ⟨start, hstart⟩ := hparts
  obtain ⟨walked, hw⟩ := walk_append [] start
  refine ⟨walked.flatMap fun part => '/' :: part, fun t ht => ?_⟩
  rw [Url.path, Url.pathOf, hstart t ht, hw _ (splitAt_ne_nil '/' t) ht.parts, List.flatMap_append,
    flatMap_splitAt]

/-- A path of names is in its only spelling. -/
theorem path_plain (ht : Plain t) : Url.path ('/' :: t) = '/' :: t := by
  have hmap : (t.map fun c => if c = '\\' then '/' else c) = t := by
    refine (List.map_congr_left fun c hc => ?_).trans (List.map_id t)
    exact if_neg (ht.ne hc (by decide) (by decide))
  simp only [Url.path, List.map_cons, List.drop_one, List.tail_cons, hmap]
  rw [Url.pathOf, walk_names [] ht.parts, List.nil_append, flatMap_splitAt]

end Paths

/-- What addresses with a common start have in common. -/
structure Stem where
  /-- The server. -/
  origin : Origin
  /-- What stands in front of the at sign. -/
  userInfo : List Char
  /-- The target, or its start. -/
  target : List Char
  /-- The start of the fragment, if the end of the address belongs to it. -/
  fragment : Option (List Char)

namespace Stem

/-- The address with an end. -/
def url (stem : Stem) (t : List Char) : Url :=
  match stem.fragment with
  | none => ⟨stem.origin, stem.userInfo, stem.target ++ t, []⟩
  | some fragment => ⟨stem.origin, stem.userInfo, stem.target, fragment ++ t⟩

/-- The text of the address without the end. -/
def chars (stem : Stem) : List Char :=
  stem.origin.scheme ++ Url.userText stem.userInfo ++ stem.origin.server ++ stem.target ++
    stem.fragment.getD []

variable (stem : Stem) (t : List Char)

theorem url_origin : (stem.url t).origin = stem.origin := by
  unfold url
  split <;> rfl

theorem url_userInfo : (stem.url t).userInfo = stem.userInfo := by
  unfold url
  split <;> rfl

theorem url_text : (stem.url t).text = String.ofList (stem.chars ++ t) := by
  unfold url chars Url.text
  split
  · next h => simp [h]
  · next fragment h => simp [h]

end Stem

section Reading

theorem rest_eq (s : List Char) :
    Url.Rest.of s =
      ⟨s.takeWhile fun c => c ≠ '?' ∧ c ≠ '#',
        (s.dropWhile fun c => c ≠ '?' ∧ c ≠ '#').takeWhile (· ≠ '#'),
        (s.dropWhile fun c => c ≠ '?' ∧ c ≠ '#').dropWhile (· ≠ '#')⟩ := by
  simp only [Url.Rest.of, drop_length_takeWhile]

/-- The address behind a server whose path, query and fragment are given. -/
def Url.behind (origin : Origin) (userInfo : List Char) (rest : Rest) : Url :=
  ⟨origin, userInfo, path rest.path ++ escape "\"'<>".toList rest.query,
    fragmentText rest.fragment⟩

theorem plain_cons {t : List Char} (ht : Plain t) : Plain ('/' :: t) :=
  List.forall_mem_cons.mpr ⟨Or.inl rfl, ht⟩

/-- A plain end belongs to the path if nothing in front of it starts a query or a fragment. -/
theorem behind_path (origin : Origin) (userInfo : List Char) {s : List Char}
    (hs : ∀ c ∈ s, c ≠ '?' ∧ c ≠ '#') {walked : List Char}
    (hw : ∀ t, Plain t → Url.path (s ++ '/' :: t) = walked ++ '/' :: t) {t : List Char}
    (ht : Plain t) :
    Url.behind origin userInfo (.of (s ++ '/' :: t)) =
      ⟨origin, userInfo, walked ++ '/' :: t, []⟩ := by
  have hall : ∀ c ∈ s ++ '/' :: t, decide (c ≠ '?' ∧ c ≠ '#') = true := by
    intro c hc
    rcases List.mem_append.mp hc with hc | hc
    · simpa using hs c hc
    · have hquery := (plain_cons ht).ne hc (d := '?') (by decide) (by decide)
      have hmark := (plain_cons ht).ne hc (d := '#') (by decide) (by decide)
      simp [hquery, hmark]
  rw [rest_eq, List.takeWhile_eq_self_iff.mpr hall, List.dropWhile_eq_nil_iff.mpr hall]
  simp [Url.behind, hw t ht, Url.escape, Url.fragmentText]

theorem behind_append (origin : Origin) (userInfo s : List Char) :
    ∃ stem : Stem, ∀ t, Plain t →
      Url.behind origin userInfo (.of (s ++ '/' :: t)) = stem.url ('/' :: t) := by
  have hmark : ∀ t, Plain t → ∀ c ∈ '/' :: t, c ≠ '#' := fun t ht c hc =>
    (plain_cons ht).ne hc (by decide) (by decide)
  by_cases hs : ∀ c ∈ s, decide (c ≠ '?' ∧ c ≠ '#') = true
  · -- The end belongs to the path.
    obtain ⟨walked, hw⟩ := path_append s
    exact ⟨⟨origin, userInfo, walked, none⟩, fun t ht =>
      behind_path origin userInfo (by simpa using hs) hw ht⟩
  · simp only [rest_eq, takeWhile_append_of_not_all hs, dropWhile_append_of_not_all hs]
    generalize s.takeWhile (fun c => decide (c ≠ '?' ∧ c ≠ '#')) = front
    generalize s.dropWhile (fun c => decide (c ≠ '?' ∧ c ≠ '#')) = back
    by_cases hb : ∀ c ∈ back, decide (c ≠ '#') = true
    · -- It belongs to the query.
      refine ⟨⟨origin, userInfo, Url.path front ++ Url.escape "\"'<>".toList back, none⟩,
        fun t ht => ?_⟩
      have hall : ∀ c ∈ back ++ '/' :: t, decide (c ≠ '#') = true := by
        intro c hc
        rcases List.mem_append.mp hc with hc | hc
        · exact hb c hc
        · simp [hmark t ht c hc]
      have hescape := (plain_cons ht).escape_eq "\"'<>".toList (by decide) (by decide)
      have happend : Url.escape "\"'<>".toList (back ++ '/' :: t) =
          Url.escape "\"'<>".toList back ++ '/' :: t :=
        (List.flatMap_append).trans (congrArg _ hescape)
      rw [List.takeWhile_eq_self_iff.mpr hall, List.dropWhile_eq_nil_iff.mpr hall]
      simp only [Url.behind, happend, Stem.url]
      simp [Url.escape, Url.fragmentText]
    · -- It belongs to the fragment.
      refine ⟨⟨origin, userInfo,
        Url.path front ++ Url.escape "\"'<>".toList (back.takeWhile (· ≠ '#')),
        some (Url.fragmentText (back.dropWhile (· ≠ '#')))⟩, fun t ht => ?_⟩
      have hescape := (plain_cons ht).escape_eq "\"<>`".toList (by decide) (by decide)
      rw [takeWhile_append_of_not_all hb, dropWhile_append_of_not_all hb]
      simp only [Url.behind, Stem.url, Url.fragmentText]
      refine congrArg _ ((List.flatMap_append).trans (congrArg _ hescape))

theorem ofRest?_eq (secure : Bool) (s : List Char) :
    Url.ofRest? secure s = (Url.origin? secure (Url.splitAuthority Url.isSlash s).1).map
      fun origin => Url.behind origin (Url.userInfoOf (Url.splitAuthority Url.isSlash s).1)
        (.of (Url.splitAuthority Url.isSlash s).2) := by
  exact Option.map_eq_bind.symm

theorem splitAuthority_append (s t : List Char) :
    Url.splitAuthority Url.isSlash (s ++ '/' :: t) =
      ((Url.splitAuthority Url.isSlash s).1, (Url.splitAuthority Url.isSlash s).2 ++ '/' :: t) :=
  Prod.ext (takeWhile_append_stop (by decide)) (dropWhile_append_stop (by decide))

theorem ofRest?_append (secure : Bool) (s : List Char) : ∃ stem? : Option Stem, ∀ t, Plain t →
    Url.ofRest? secure (s ++ '/' :: t) = stem?.map fun stem => stem.url ('/' :: t) := by
  simp only [ofRest?_eq, splitAuthority_append]
  cases Url.origin? secure (Url.splitAuthority Url.isSlash s).1 with
  | none => exact ⟨none, fun t _ => rfl⟩
  | some origin =>
      obtain ⟨stem, hstem⟩ := behind_append origin
        (Url.userInfoOf (Url.splitAuthority Url.isSlash s).1) (Url.splitAuthority Url.isSlash s).2
      exact ⟨some stem, fun t ht => congrArg some (hstem t ht)⟩

theorem splitScheme?_append (s t : List Char) :
    Url.splitScheme? (s ++ '/' :: t) =
      (Url.splitScheme? s).map fun (scheme, rest) => (scheme, rest ++ '/' :: t) := by
  have hslash : Url.isSchemeChar '/' = false := by decide
  simp only [Url.splitScheme?, drop_length_takeWhile]
  rw [takeWhile_append_stop hslash, dropWhile_append_stop hslash]
  cases s.takeWhile Url.isSchemeChar with
  | nil => rfl
  | cons c scheme =>
      cases s.dropWhile Url.isSchemeChar with
      | nil => simp
      | cons d rest =>
          by_cases hd : d = ':'
          · subst hd
            by_cases hc : c.isAlpha <;> simp [hc]
          · simp [hd]

theorem trimBy_append {α : Type} {test : α → Bool} (s : List α) {e : List α} (hne : e ≠ [])
    (h : ∀ a ∈ e, test a = false) : trimBy test (s ++ e) = s.dropWhile test ++ e := by
  obtain ⟨first, rest, rfl⟩ := List.exists_cons_of_ne_nil hne
  obtain ⟨last, front, hlast⟩ := List.exists_cons_of_ne_nil (List.reverse_ne_nil_iff.mpr hne)
  have hmem : last ∈ first :: rest := List.mem_reverse.mp (hlast ▸ List.mem_cons_self)
  rw [trimBy, dropWhile_append_stop (h first List.mem_cons_self), List.reverse_append, hlast,
    List.cons_append, List.dropWhile_cons_of_neg (by simp [h last hmem]), ← List.cons_append,
    ← hlast, ← List.reverse_append, List.reverse_reverse]

/-- Characters above the blank are not dropped. -/
theorem filter_eq_of_visible {s : List Char} (h : ∀ c ∈ s, 0x20 < c.toNat) :
    s.filter (fun c => c ≠ '\t' ∧ c ≠ '\n' ∧ c ≠ '\r') = s := by
  apply List.filter_eq_self.mpr
  intro c hc
  have hne : ∀ d : Char, d.toNat ≤ 0x20 → c ≠ d := by
    rintro d hd rfl
    exact absurd (h c hc) (Nat.not_lt.mpr hd)
  simp only [decide_eq_true_eq]
  exact ⟨hne _ (by decide), hne _ (by decide), hne _ (by decide)⟩

theorem Plain.visible {t : List Char} (h : Plain t) : ∀ c ∈ '/' :: t, 0x20 < c.toNat := by
  intro c hc
  rcases List.mem_cons.mp hc with rfl | hc
  · decide
  · rcases h c hc with rfl | hletter
    · decide
    · omega

/-- An address is one of the web: behind its scheme come the slashes, and the server behind them. -/
theorem parse?_eq (s : String) : Url.parse? s =
    (Url.splitScheme? (Url.cleaned s)).bind fun split =>
      if split.1 = "http" then Url.ofRest? false (split.2.dropWhile Url.isSlash)
      else if split.1 = "https" then Url.ofRest? true (split.2.dropWhile Url.isSlash)
      else none := by
  unfold Url.parse?
  split
  · next h => simp [h]
  · next h => simp [h]
  · next hhttp hhttps =>
      cases h : Url.splitScheme? (Url.cleaned s) with
      | none => rfl
      | some split =>
          have hno : split.1 ≠ "http" ∧ split.1 ≠ "https" := by
            constructor
            · rintro heq
              exact hhttp split.2 (by rw [h, ← heq])
            · rintro heq
              exact hhttps split.2 (by rw [h, ← heq])
          simp [hno]

theorem cleaned_append (base : String) : ∃ start, (∀ c ∈ start, c ∈ base.toList) ∧
    ∀ t, Plain t → Url.cleaned (base ++ String.ofList ('/' :: t)) = start ++ '/' :: t := by
  refine ⟨(base.toList.dropWhile fun c => c.toNat ≤ 0x20).filter fun c =>
    c ≠ '\t' ∧ c ≠ '\n' ∧ c ≠ '\r', fun c hc => ?_, fun t ht => ?_⟩
  · exact (List.dropWhile_suffix _).subset ((List.mem_filter.mp hc).1)
  · have hvisible := ht.visible
    rw [Url.cleaned, String.toList_append, String.toList_ofList,
      trimBy_append _ (by simp) fun c hc => by simpa using hvisible c hc,
      List.filter_append, filter_eq_of_visible hvisible]

/-- Addresses with a common start and plain ends have all but the end in common. -/
theorem exists_stem (base : String) : ∃ stem? : Option Stem, ∀ t, Plain t →
    Url.parse? (base ++ "/api/v1" ++ String.ofList ('/' :: t)) =
      stem?.map fun stem => stem.url ('/' :: t) := by
  obtain ⟨start, -, hstart⟩ := cleaned_append base
  have hcleaned : ∀ t, Plain t →
      Url.cleaned (base ++ "/api/v1" ++ String.ofList ('/' :: t)) =
        start ++ '/' :: ("api/v1".toList ++ '/' :: t) := by
    intro t ht
    have hplain : Plain ("api/v1".toList ++ '/' :: t) := by
      intro c hc
      rcases List.mem_append.mp hc with hc | hc
      · exact (by decide : Plain "api/v1".toList) c hc
      · exact plain_cons ht c hc
    rw [← hstart _ hplain, String.append_assoc]
    congr 2
    exact String.toList_injective (by simp)
  have hslashes : ∀ rest t : List Char,
      (rest ++ '/' :: ("api/v1".toList ++ '/' :: t)).dropWhile Url.isSlash =
        (rest ++ "/api/v1".toList).dropWhile Url.isSlash ++ '/' :: t := by
    intro rest t
    have hfront : ¬ ∀ c ∈ rest ++ "/api/v1".toList, Url.isSlash c = true := by
      intro hall
      exact absurd (hall 'a' (by simp)) (by decide)
    rw [← dropWhile_append_of_not_all hfront, List.append_assoc]
    rfl
  cases hs : Url.splitScheme? start with
  | none =>
      refine ⟨none, fun t ht => ?_⟩
      rw [parse?_eq, hcleaned t ht, splitScheme?_append, hs]
      rfl
  | some split =>
      obtain ⟨scheme, rest⟩ := split
      have hread : ∀ t, Plain t →
          Url.parse? (base ++ "/api/v1" ++ String.ofList ('/' :: t)) =
            if scheme = "http" then
              Url.ofRest? false ((rest ++ "/api/v1".toList).dropWhile Url.isSlash ++ '/' :: t)
            else if scheme = "https" then
              Url.ofRest? true ((rest ++ "/api/v1".toList).dropWhile Url.isSlash ++ '/' :: t)
            else none := by
        intro t ht
        rw [parse?_eq, hcleaned t ht, splitScheme?_append, hs, ← hslashes]
        rfl
      by_cases hhttp : scheme = "http"
      · obtain ⟨stem?, hstem⟩ :=
          ofRest?_append false ((rest ++ "/api/v1".toList).dropWhile Url.isSlash)
        exact ⟨stem?, fun t ht => by rw [hread t ht, if_pos hhttp, hstem t ht]⟩
      · by_cases hhttps : scheme = "https"
        · obtain ⟨stem?, hstem⟩ :=
            ofRest?_append true ((rest ++ "/api/v1".toList).dropWhile Url.isSlash)
          exact ⟨stem?, fun t ht => by rw [hread t ht, if_neg hhttp, if_pos hhttps, hstem t ht]⟩
        · exact ⟨none, fun t ht => by rw [hread t ht, if_neg hhttp, if_neg hhttps]; rfl⟩

/-- What stands behind the colon of a scheme is the end of the address. -/
theorem suffix_of_splitScheme? {s rest : List Char} {scheme : String}
    (h : Url.splitScheme? s = some (scheme, rest)) : rest <:+ s := by
  unfold Url.splitScheme? at h
  simp only [drop_length_takeWhile] at h
  split at h
  · next heq =>
      split at h
      · obtain ⟨-, rfl⟩ := Prod.mk.inj (Option.some.inj h)
        exact (List.suffix_cons _ _).trans (heq ▸ List.dropWhile_suffix _)
      · cases h
  · cases h

/-- No server is named by nothing. -/
theorem ofRest?_nil (secure : Bool) : Url.ofRest? secure [] = none := by
  cases secure <;> decide +kernel

/-- What stands behind a server and a path without query and fragment is added to the path. -/
theorem ofRest?_path (secure : Bool) {s : List Char} (hs : ∀ c ∈ s, c ≠ '?' ∧ c ≠ '#') :
    ∃ walked, ∀ t, Plain t → Url.ofRest? secure (s ++ '/' :: t) =
      (Url.origin? secure (Url.splitAuthority Url.isSlash s).1).map fun origin =>
        ⟨origin, Url.userInfoOf (Url.splitAuthority Url.isSlash s).1, walked ++ '/' :: t, []⟩ := by
  obtain ⟨walked, hw⟩ := path_append (Url.splitAuthority Url.isSlash s).2
  have hbehind : ∀ c ∈ (Url.splitAuthority Url.isSlash s).2, c ≠ '?' ∧ c ≠ '#' := fun c hc =>
    hs c ((List.dropWhile_suffix _).subset hc)
  refine ⟨walked, fun t ht => ?_⟩
  simp only [ofRest?_eq, splitAuthority_append, behind_path _ _ hbehind hw ht]

/-- An address with a slash at its end is that of a folder, unless the slash belongs to the query or
the fragment: a plain end leads to an address in this folder. -/
theorem parse?_folder {base : String} (hbase : ∀ c ∈ base.toList, c ≠ '?' ∧ c ≠ '#') {url : Url}
    (h : Url.parse? (base ++ "/") = some url) :
    ∃ folder, url.target = folder ++ ['/'] ∧ ∀ t, Plain t →
      Url.parse? (base ++ String.ofList ('/' :: t)) =
        some { url with target := folder ++ '/' :: t } := by
  obtain ⟨start, hsub, hstart⟩ := cleaned_append base
  have hread : ∀ t, Plain t → Url.parse? (base ++ String.ofList ('/' :: t)) =
      (Url.splitScheme? start).bind fun split =>
        if split.1 = "http" then
          Url.ofRest? false ((split.2 ++ '/' :: t).dropWhile Url.isSlash)
        else if split.1 = "https" then
          Url.ofRest? true ((split.2 ++ '/' :: t).dropWhile Url.isSlash)
        else none := by
    intro t ht
    rw [parse?_eq, hstart t ht, splitScheme?_append, Option.bind_map]
    rfl
  have hnil := hread [] (by decide)
  rw [show String.ofList ['/'] = "/" from rfl, h] at hnil
  cases hs : Url.splitScheme? start with
  | none =>
      rw [hs] at hnil
      cases hnil
  | some split =>
      obtain ⟨scheme, rest⟩ := split
      have hplain : ∀ c ∈ rest.dropWhile Url.isSlash, c ≠ '?' ∧ c ≠ '#' := fun c hc =>
        hbase c (hsub c ((suffix_of_splitScheme? hs).subset ((List.dropWhile_suffix _).subset hc)))
      -- Slashes alone would leave no server.
      have hslashes : ∀ secure, Url.ofRest? secure ((rest ++ ['/']).dropWhile Url.isSlash) =
          some url → ∃ folder, url.target = folder ++ ['/'] ∧ ∀ t, Plain t →
            Url.ofRest? secure ((rest ++ '/' :: t).dropWhile Url.isSlash) =
              some { url with target := folder ++ '/' :: t } := by
        intro secure hurl
        have hrest : ¬ ∀ c ∈ rest, Url.isSlash c = true := by
          intro hall
          have hempty : (rest ++ ['/']).dropWhile Url.isSlash = [] := by
            rw [List.dropWhile_append_of_pos hall]
            rfl
          rw [hempty, ofRest?_nil] at hurl
          cases hurl
        obtain ⟨walked, hw⟩ := ofRest?_path secure hplain
        rw [dropWhile_append_of_not_all hrest, hw [] (by decide)] at hurl
        obtain ⟨origin, horigin, rfl⟩ := Option.map_eq_some_iff.mp hurl
        refine ⟨walked, rfl, fun t ht => ?_⟩
        rw [dropWhile_append_of_not_all hrest, hw t ht, horigin]
        rfl
      rw [hs, Option.bind_some] at hnil
      simp only [hs, Option.bind_some] at hread
      by_cases hhttp : scheme = "http"
      · obtain ⟨folder, htarget, hfolder⟩ := hslashes false (by simpa [hhttp] using hnil.symm)
        exact ⟨folder, htarget, fun t ht => by rw [hread t ht, if_pos hhttp, hfolder t ht]⟩
      · by_cases hhttps : scheme = "https"
        · obtain ⟨folder, htarget, hfolder⟩ := hslashes true (by simpa [hhttps] using hnil.symm)
          exact ⟨folder, htarget, fun t ht => by
            rw [hread t ht, if_neg hhttp, if_pos hhttps, hfolder t ht]⟩
        · simp [hhttp, hhttps] at hnil

/-- An address without an at sign has no login. -/
theorem userInfo_of_parse? {s : String} {url : Url} (h : Url.parse? s = some url)
    (hs : '@' ∉ s.toList) : url.userInfo = [] := by
  have hcleaned : '@' ∉ Url.cleaned s := by
    intro hmem
    refine hs ((List.dropWhile_suffix _).subset (List.mem_reverse.mp
      ((List.dropWhile_suffix _).subset (List.mem_reverse.mp ((List.mem_filter.mp hmem).1)))))
  have hbehind : ∀ (secure : Bool) (rest : List Char), '@' ∉ rest →
      Url.ofRest? secure (rest.dropWhile Url.isSlash) = some url → url.userInfo = [] := by
    intro secure rest hrest hurl
    rw [ofRest?_eq] at hurl
    obtain ⟨origin, -, rfl⟩ := Option.map_eq_some_iff.mp hurl
    have hauthority : '@' ∉ (Url.splitAuthority Url.isSlash (rest.dropWhile Url.isSlash)).1 :=
      fun hmem => hrest ((List.dropWhile_suffix _).subset ((List.takeWhile_prefix _).subset hmem))
    have hall : ∀ c ∈ (Url.splitAuthority Url.isSlash (rest.dropWhile Url.isSlash)).1.reverse,
        decide (c ≠ '@') = true := by
      intro c hc
      simpa using ne_of_mem_of_not_mem (List.mem_reverse.mp hc) hauthority
    simp only [Url.behind, Url.userInfoOf, List.dropWhile_eq_nil_iff.mpr hall]
    rfl
  rw [parse?_eq] at h
  obtain ⟨⟨scheme, rest⟩, hsplit, hurl⟩ := Option.bind_eq_some_iff.mp h
  have hrest : '@' ∉ rest := fun hmem => hcleaned ((suffix_of_splitScheme? hsplit).subset hmem)
  simp only at hurl
  split_ifs at hurl
  · exact hbehind false rest hrest hurl
  · exact hbehind true rest hrest hurl

/-- The part of an address that names a server: nothing in it ends it. -/
def Bare (authority : List Char) : Prop :=
  authority ≠ [] ∧ ∀ c ∈ authority, 0x20 < c.toNat ∧ c ∉ ['/', '\\', '?', '#']

instance (authority : List Char) : Decidable (Bare authority) :=
  @instDecidableAnd _ _ inferInstance (List.decidableBAll _ authority)

theorem cleaned_of_visible {s : String} (hne : s.toList ≠ [])
    (h : ∀ c ∈ s.toList, 0x20 < c.toNat) : Url.cleaned s = s.toList := by
  have htrim : trimBy (fun c : Char => decide (c.toNat ≤ 0x20)) ([] ++ s.toList) =
      [].dropWhile (fun c : Char => decide (c.toNat ≤ 0x20)) ++ s.toList :=
    trimBy_append [] hne fun c hc => by simpa using h c hc
  rw [Url.cleaned, ← List.nil_append s.toList, htrim]
  exact filter_eq_of_visible h

theorem rest_plain {t : List Char} (ht : Plain t) :
    Url.Rest.of ('/' :: t) = ⟨'/' :: t, [], []⟩ := by
  have hall : ∀ c ∈ '/' :: t, decide (c ≠ '?' ∧ c ≠ '#') = true := by
    intro c hc
    rcases List.mem_cons.mp hc with rfl | hc
    · decide
    · simpa using ⟨ht.ne hc (by decide) (by decide), ht.ne hc (by decide) (by decide)⟩
  rw [rest_eq, List.takeWhile_eq_self_iff.mpr hall, List.dropWhile_eq_nil_iff.mpr hall]
  rfl

/-- What stands in front of a plain path is the server, if it can be one. -/
theorem ofRest?_bare (secure : Bool) {authority : List Char} (ha : Bare authority) {t : List Char}
    (ht : Plain t) :
    Url.ofRest? secure (authority ++ '/' :: t) =
      (Url.origin? secure authority).map fun origin =>
        ⟨origin, Url.userInfoOf authority, '/' :: t, []⟩ := by
  have hinside : ∀ c ∈ authority, (!(Url.isSlash c || c == '?' || c == '#')) = true := by
    intro c hc
    have := (ha.2 c hc).2
    simp_all [Url.isSlash]
  have hauthority : Url.splitAuthority Url.isSlash authority = (authority, []) :=
    Prod.ext (List.takeWhile_eq_self_iff.mpr hinside) (List.dropWhile_eq_nil_iff.mpr hinside)
  rw [ofRest?_eq, splitAuthority_append, hauthority]
  simp only [List.nil_append, rest_plain ht, Url.behind, path_plain ht]
  simp [Url.escape, Url.fragmentText]

/-- An address of a server and a plain path has this server and this path. -/
theorem parse?_bare (secure : Bool) {authority : List Char} (ha : Bare authority) {t : List Char}
    (ht : Plain t) :
    Url.parse? ((if secure then "https://" else "http://") ++ String.ofList authority ++
        String.ofList ('/' :: t)) =
      (Url.origin? secure authority).map fun origin =>
        ⟨origin, Url.userInfoOf authority, '/' :: t, []⟩ := by
  obtain ⟨hne, hchars⟩ := ha
  have hrest : (('/' :: '/' :: authority) ++ '/' :: t).dropWhile Url.isSlash =
      authority ++ '/' :: t := by
    obtain ⟨c, rest, rfl⟩ := List.exists_cons_of_ne_nil hne
    have hc : Url.isSlash c = false := by
      have := (hchars c List.mem_cons_self).2
      simp_all [Url.isSlash]
    simp [Url.isSlash] at hc ⊢
    simp [hc]
  have hbehind := ofRest?_bare secure ⟨hne, hchars⟩ ht
  have hsplit : ∀ scheme : String, (∀ c ∈ scheme.toList, 0x20 < c.toNat) →
      Url.splitScheme? (scheme.toList ++ [':']) = some (scheme, []) →
        Url.splitScheme? (Url.cleaned (scheme ++ "://" ++ String.ofList authority ++
          String.ofList ('/' :: t))) = some (scheme, ('/' :: '/' :: authority) ++ '/' :: t) := by
    intro scheme hvisible hs
    have hlist : (scheme ++ "://" ++ String.ofList authority ++ String.ofList ('/' :: t)).toList =
        (scheme.toList ++ [':']) ++ '/' :: ('/' :: authority ++ '/' :: t) := by
      simp
    rw [cleaned_of_visible (by simp), hlist, splitScheme?_append, hs]
    · rfl
    · intro c hc
      rw [hlist] at hc
      simp only [List.mem_append, List.mem_cons, List.not_mem_nil, or_false] at hc
      rcases hc with (hc | rfl) | rfl | (rfl | hc) | hc
      · exact hvisible c hc
      · decide
      · decide
      · decide
      · exact (hchars c hc).1
      · exact ht.visible c (List.mem_cons.mpr hc)
  cases secure with
  | false =>
      have hs := hsplit "http" (forall_mem_of_all (by decide)) (by decide)
      rw [Url.parse?]
      simp only [Bool.false_eq_true, if_false]
      rw [show "http://" = "http" ++ "://" from rfl, hs, ← hbehind, ← hrest]
      rfl
  | true =>
      have hs := hsplit "https" (forall_mem_of_all (by decide)) (by decide)
      rw [Url.parse?]
      simp only [if_true]
      rw [show "https://" = "https" ++ "://" from rfl, hs, ← hbehind, ← hrest]
      rfl

end Reading

end LaunchDesk.Http
