import LaunchDesk.Folder
import Mathlib.Data.List.Basic

/-!
# Files and their names

The last name in a path, by what the path looks like around it, and what can be read of a file. A
path that leads to a file ends in a name, and the text of a file is the one of which its bytes are
the UTF-8.

## Implementation notes

The last step of a walk that ends at a file must be the step to its name, since every other step
leads from one directory to another. For the step up this takes an invariant of the walk: all places
on the way to the place where it stands are directories.
-/

namespace LaunchDesk

open Text

section Bytes

variable {bytes : List UInt8} {text : String}

/-- Bytes that are the UTF-8 of a text. -/
def IsUtf8 (bytes : List UInt8) : Prop :=
  ∃ text : List Char, text.flatMap String.utf8EncodeChar = bytes

theorem toByteArray_eq_iff :
    text.toByteArray = ⟨bytes.toArray⟩ ↔ text.toList.flatMap String.utf8EncodeChar = bytes := by
  rw [← String.utf8Encode_toList]
  simp [List.utf8Encode, ByteArray.ext_iff]

theorem ofUtf8?_eq_some_iff :
    ofUtf8? bytes = some text ↔ text.toList.flatMap String.utf8EncodeChar = bytes := by
  rw [← toByteArray_eq_iff]
  unfold ofUtf8? String.fromUTF8?
  split_ifs with h
  · rw [Option.some.injEq, ← String.toByteArray_inj]
    exact eq_comm
  · simp only [false_iff]
    intro heq
    exact h (heq ▸ text.isValidUTF8)

theorem isUtf8_iff : IsUtf8 bytes ↔ (ofUtf8? bytes).isSome := by
  simp only [Option.isSome_iff_exists, ofUtf8?_eq_some_iff]
  constructor
  · rintro ⟨chars, h⟩
    exact ⟨String.ofList chars, by rwa [String.toList_ofList]⟩
  · rintro ⟨text, h⟩
    exact ⟨text.toList, h⟩

end Bytes

namespace Path

/-- A name without directories, and none of the two that stand for a directory. -/
structure IsBareName (name : String) : Prop where
  nonempty : name ≠ ""
  noSlash : '/' ∉ name.toList
  notHere : name ≠ "."
  notUp : name ≠ ".."

/-- An end of a path that does not lead anywhere, of slashes and of slashes with a dot. -/
inductive Idle : List Char → Prop
  | nil : Idle []
  | slash {rest : List Char} (tail : Idle rest) : Idle ('/' :: rest)
  | dot {rest : List Char} (tail : Idle rest) : Idle ('/' :: '.' :: rest)

/-- A path ends on a name: in front of it there is a slash or nothing, and nothing behind it leads
anywhere. -/
def EndsOn (path name : String) : Prop :=
  ∃ front tail, path.toList = front ++ name.toList ++ tail ∧
    (front = [] ∨ front.getLast? = some '/') ∧ Idle tail

/-- A part that does not lead anywhere. -/
def IsIdlePart (part : List Char) : Prop :=
  part = [] ∨ part = ['.']

section Names

variable {path name : String}

theorem idle_flatMap {parts : List (List Char)} (h : ∀ part ∈ parts, IsIdlePart part) :
    Idle (parts.flatMap fun part => '/' :: part) := by
  induction parts with
  | nil => exact .nil
  | cons part parts ih =>
      have htail := ih fun p hp => h p (List.mem_cons_of_mem part hp)
      rcases h part List.mem_cons_self with rfl | rfl
      · exact .slash htail
      · exact .dot htail

theorem splitAt_append_idle {tail : List Char} (h : Idle tail) {front : List Char}
    (hf : '/' ∉ front) :
    ∃ parts, splitAt '/' (front ++ tail) = front :: parts ∧ ∀ part ∈ parts, IsIdlePart part := by
  induction h generalizing front with
  | nil => exact ⟨[], by rw [List.append_nil, splitAt_of_not_mem hf], by simp⟩
  | @slash rest tail ih =>
      obtain ⟨parts, hparts, hidle⟩ := ih List.not_mem_nil
      refine ⟨[] :: parts, ?_, List.forall_mem_cons.mpr ⟨Or.inl rfl, hidle⟩⟩
      rw [splitAt_append, splitAt_of_not_mem hf]
      exact congrArg (front :: ·) hparts
  | @dot rest tail ih =>
      obtain ⟨parts, hparts, hidle⟩ := ih (by decide : '/' ∉ ['.'])
      refine ⟨['.'] :: parts, ?_, List.forall_mem_cons.mpr ⟨Or.inr rfl, hidle⟩⟩
      rw [splitAt_append, splitAt_of_not_mem hf]
      exact congrArg (front :: ·) hparts

/-- Cut at its slashes, a path that ends on a name has only idle parts behind this name. -/
theorem endsOn_iff (hslash : '/' ∉ name.toList) : EndsOn path name ↔
    ∃ before after, splitAt '/' path.toList = before ++ name.toList :: after ∧
      ∀ part ∈ after, IsIdlePart part := by
  constructor
  · rintro ⟨front, tail, hpath, hfront, htail⟩
    obtain ⟨after, hafter, hidle⟩ := splitAt_append_idle htail hslash
    rw [hpath, List.append_assoc]
    rcases hfront with rfl | hfront
    · exact ⟨[], after, hafter, hidle⟩
    · obtain ⟨start, rfl⟩ := List.getLast?_eq_some_iff.mp hfront
      refine ⟨splitAt '/' start, after, ?_, hidle⟩
      rw [List.append_assoc, List.singleton_append, splitAt_append, hafter]
  · rintro ⟨before, after, hparts, hidle⟩
    have hjoined := flatMap_splitAt '/' path.toList
    rw [hparts, List.flatMap_append, List.flatMap_cons] at hjoined
    cases before with
    | nil => exact ⟨[], _, by simpa using hjoined.symm, Or.inl rfl, idle_flatMap hidle⟩
    | cons first before =>
        refine ⟨first ++ (before.flatMap fun part => '/' :: part) ++ ['/'], _, ?_,
          Or.inr (by simp), idle_flatMap hidle⟩
        simpa using hjoined.symm

/-- The last one that a test lets through. -/
theorem getLast?_filter_eq_some_iff {α : Type} {p : α → Bool} {l : List α} {a : α} :
    (l.filter p).getLast? = some a ↔
      p a ∧ ∃ before after, l = before ++ a :: after ∧ ∀ b ∈ after, ¬ p b := by
  rw [List.getLast?_filter, List.find?_eq_some_iff_append]
  constructor
  · rintro ⟨ha, after, before, hl, hafter⟩
    refine ⟨ha, before.reverse, after.reverse, ?_, fun b hb => ?_⟩
    · rw [← List.reverse_inj, hl]
      simp
    · simpa using hafter b (List.mem_reverse.mp hb)
  · rintro ⟨ha, before, after, rfl, hafter⟩
    exact ⟨ha, after.reverse, before.reverse, by simp, fun b hb => by
      simpa using hafter b (List.mem_reverse.mp hb)⟩

theorem isIdlePart_iff {part : String} : IsIdlePart part.toList ↔ part = "" ∨ part = "." :=
  or_congr (String.toList_inj : part.toList = "".toList ↔ part = "")
    (String.toList_inj : part.toList = ".".toList ↔ part = ".")

/-- The last named part of a path is the bare name that it ends on. -/
theorem baseName?_eq_some_iff :
    baseName? path = some name ↔ IsBareName name ∧ EndsOn path name := by
  have hlast : baseName? path = some name ↔ (name ≠ "" ∧ name ≠ "." ∧ name ≠ "..") ∧
      ∃ before after, segments path = before ++ name :: after ∧
        ∀ part ∈ after, IsIdlePart part.toList := by
    rw [baseName?, steps, Option.filter_eq_some_iff, getLast?_filter_eq_some_iff]
    simp only [decide_eq_true_eq, not_and_or, not_not, isIdlePart_iff]
    tauto
  rw [hlast]
  constructor
  · rintro ⟨⟨hempty, hhere, hup⟩, before, after, hparts, hidle⟩
    have hchars : splitAt '/' path.toList =
        before.map String.toList ++ name.toList :: after.map String.toList := by
      simpa [segments] using congrArg (List.map String.toList) hparts
    have hslash : '/' ∉ name.toList :=
      not_mem_of_mem_splitAt (s := path.toList) (by simp [hchars])
    exact ⟨⟨hempty, hslash, hhere, hup⟩,
      (endsOn_iff hslash).mpr ⟨_, _, hchars, List.forall_mem_map.mpr hidle⟩⟩
  · rintro ⟨⟨hempty, hslash, hhere, hup⟩, hends⟩
    obtain ⟨before, after, hparts, hidle⟩ := (endsOn_iff hslash).mp hends
    refine ⟨⟨hempty, hhere, hup⟩, before.map String.ofList, after.map String.ofList,
      by simp [segments, hparts], List.forall_mem_map.mpr fun part hpart => ?_⟩
    rw [String.toList_ofList]
    exact hidle part hpart

end Names

end Path

namespace Folder

variable {folder : Folder} {steps next : List String} {name path : String} {content : List UInt8}

/-- All places on the way to a place are directories. -/
def Reached (folder : Folder) (steps : List String) : Prop :=
  ∀ front, front <+: steps → front ≠ steps → folder.entry? front = some .folder

theorem entry?_root (folder : Folder) : folder.entry? root = some .folder :=
  if_pos (Or.inl rfl)

theorem entry?_of_isUpward (h : isUpward steps) : folder.entry? steps = some .folder :=
  if_pos (Or.inr h)

theorem isUpward_of_front {front : List String} (hp : front <+: steps) (h : isUpward steps) :
    isUpward front := by
  rw [isUpward, List.all_eq_true] at h ⊢
  exact fun step hs => h step (hp.subset hs)

theorem reached_of_isUpward (h : isUpward steps) : folder.Reached steps :=
  fun _ hp _ => entry?_of_isUpward (isUpward_of_front hp h)

theorem reached_root (folder : Folder) : folder.Reached root := by
  intro front hp hne
  obtain rfl : front = [] := by
    rcases List.prefix_cons_iff.mp hp with hnil | ⟨rest, rfl, hrest⟩
    · exact hnil
    · exact absurd (congrArg _ (List.prefix_nil.mp hrest)) hne
  exact entry?_of_isUpward rfl

theorem reached_startOf (folder : Folder) (path : String) : folder.Reached (startOf path) := by
  unfold startOf
  split
  · exact folder.reached_root
  · exact reached_of_isUpward rfl

theorem reached_above (h : folder.Reached steps) : folder.Reached (above steps) := by
  unfold above
  split_ifs with hroot hup
  · exact folder.reached_root
  · exact reached_of_isUpward (by simpa [isUpward] using hup)
  · intro front hp hne
    refine h front (hp.trans (List.dropLast_prefix steps)) ?_
    rintro rfl
    exact hne (hp.eq_of_length_le (List.dropLast_prefix front).length_le)

/-- What stands above a directory that can be reached is a directory. -/
theorem entry?_above (h : folder.Reached steps) : folder.entry? (above steps) = some .folder := by
  unfold above
  split_ifs with hroot hup
  · exact folder.entry?_root
  · exact entry?_of_isUpward (by simpa [isUpward] using hup)
  · refine h _ (List.dropLast_prefix steps) fun heq => ?_
    have hempty : steps = [] := by
      have hlength := congrArg List.length heq
      rw [List.length_dropLast] at hlength
      exact List.length_eq_zero_iff.mp (by omega)
    exact hup (by rw [hempty]; rfl)

/-- What a step can be: staying, going up, or going to a name. -/
theorem step_cases (h : folder.step steps name = .ok next) :
    folder.entry? steps = some .folder ∧
      ((name = "" ∨ name = ".") ∧ next = steps ∨
        name = ".." ∧ next = above steps ∨
        (name ≠ "" ∧ name ≠ "." ∧ name ≠ "..") ∧ next = steps ++ [name]) := by
  unfold step at h
  split at h
  · next hfolder =>
      refine ⟨hfolder, ?_⟩
      unfold stepFrom lookUp at h
      split_ifs at h with hstay hup hlong hfound
      · exact Or.inl ⟨hstay, (Except.ok.inj h).symm⟩
      · exact Or.inr (Or.inl ⟨hup, (Except.ok.inj h).symm⟩)
      · exact Or.inr (Or.inr ⟨⟨fun he => hstay (Or.inl he), fun hd => hstay (Or.inr hd), hup⟩,
          (Except.ok.inj h).symm⟩)
  · cases h
  · cases h

theorem reached_step (hr : folder.Reached steps) (h : folder.step steps name = .ok next) :
    folder.Reached next := by
  obtain ⟨hfolder, ⟨-, rfl⟩ | ⟨-, rfl⟩ | ⟨-, rfl⟩⟩ := step_cases h
  · exact hr
  · exact reached_above hr
  · intro front hp hne
    rcases List.prefix_concat_iff.mp hp with rfl | hp
    · exact absurd rfl hne
    · by_cases heq : front = steps
      · rw [heq, hfolder]
      · exact hr front hp heq

/-- A step to a file is a step to its name. -/
theorem name_of_step (hr : folder.Reached steps) (h : folder.step steps name = .ok next)
    (hfile : folder.entry? next = some (.file content)) :
    name ≠ "" ∧ name ≠ "." ∧ name ≠ ".." := by
  obtain ⟨hfolder, ⟨-, rfl⟩ | ⟨-, rfl⟩ | ⟨hname, -⟩⟩ := step_cases h
  · rw [hfolder] at hfile
    cases hfile
  · rw [entry?_above hr] at hfile
    cases hfile
  · exact hname

theorem walk_cons_ok {names : List String} {last : List String} :
    folder.walk steps (name :: names) = .ok last ↔
      ∃ next, folder.step steps name = .ok next ∧ folder.walk next names = .ok last := by
  cases hs : folder.step steps name with
  | ok next => simp [walk, hs]
  | error e => simp [walk, hs]

theorem reached_walk {names : List String} (hr : folder.Reached steps)
    (h : folder.walk steps names = .ok next) : folder.Reached next := by
  induction names generalizing steps with
  | nil =>
      obtain rfl := Except.ok.inj h
      exact hr
  | cons name names ih =>
      obtain ⟨place, hs, hw⟩ := walk_cons_ok.mp h
      exact ih (reached_step hr hs) hw

theorem walk_concat_ok {names : List String} {last : List String} :
    folder.walk steps (names ++ [name]) = .ok last ↔
      ∃ next, folder.walk steps names = .ok next ∧ folder.step next name = .ok last := by
  induction names generalizing steps with
  | nil =>
      rw [List.nil_append, walk_cons_ok]
      simp [walk]
  | cons other names ih =>
      simp only [List.cons_append, walk_cons_ok, ih]
      constructor
      · rintro ⟨place, hs, next, hw, hlast⟩
        exact ⟨next, ⟨place, hs, hw⟩, hlast⟩
      · rintro ⟨next, ⟨place, hs, hw⟩, hlast⟩
        exact ⟨place, hs, next, hw, hlast⟩

theorem entry?_startOf (folder : Folder) (path : String) :
    folder.entry? (startOf path) = some .folder := by
  unfold startOf
  split
  · exact folder.entry?_root
  · exact entry?_of_isUpward rfl

/-- A path that leads to a file ends in its name. -/
theorem segments_of_read (h : folder.read path = .ok content) :
    ∃ before name, Path.segments path = before ++ [name] ∧
      name ≠ "" ∧ name ≠ "." ∧ name ≠ ".." := by
  unfold read at h
  split_ifs at h
  split at h
  · next place hw =>
      have hfile : folder.entry? place = some (.file content) := by
        unfold contentAt at h
        split at h <;> simp_all
      rcases List.eq_nil_or_concat (Path.segments path) with hnil | ⟨before, name, hparts⟩
      · rw [hnil] at hw
        obtain rfl := Except.ok.inj hw
        rw [entry?_startOf] at hfile
        cases hfile
      · rw [hparts, List.concat_eq_append] at hw
        obtain ⟨mid, hmid, hlast⟩ := walk_concat_ok.mp hw
        exact ⟨before, name, by rw [hparts, List.concat_eq_append],
          name_of_step (reached_walk (reached_startOf folder path) hmid) hlast hfile⟩
  · cases h

/-- A file can be read as a text exactly if its bytes are the UTF-8 of this text. -/
theorem readText_eq_ok_iff {text : String} : folder.readText path = .ok text ↔
    ∃ bytes, folder.read path = .ok bytes ∧
      text.toList.flatMap String.utf8EncodeChar = bytes := by
  simp only [← ofUtf8?_eq_some_iff, readText]
  cases folder.read path with
  | error e => simp
  | ok bytes => cases htext : ofUtf8? bytes <;> simp [htext]

theorem exists_readText_iff : (∃ text, folder.readText path = .ok text) ↔
    ∃ bytes, folder.read path = .ok bytes ∧ IsUtf8 bytes := by
  simp only [readText_eq_ok_iff, isUtf8_iff, Option.isSome_iff_exists, ofUtf8?_eq_some_iff]
  constructor
  · rintro ⟨text, bytes, hread, htext⟩
    exact ⟨bytes, hread, text, htext⟩
  · rintro ⟨bytes, hread, text, htext⟩
    exact ⟨text, bytes, hread, htext⟩

end Folder

/-- The name under which a file is known is the bare name that its path ends on, since a path
without one leads to no file. -/
theorem Path.knownAs_of_read {folder : Folder} {path : String} {content : List UInt8}
    (h : folder.read path = .ok content) :
    IsBareName (knownAs path) ∧ EndsOn path (knownAs path) := by
  obtain ⟨before, name, hparts, hempty, hhere, hup⟩ := Folder.segments_of_read h
  have hbase : baseName? path = some name := by
    simp [baseName?, steps, hparts, hempty, hhere, hup]
  have hknown : knownAs path = name := by rw [knownAs, hbase]; rfl
  rw [hknown]
  exact baseName?_eq_some_iff.mp hbase

end LaunchDesk
