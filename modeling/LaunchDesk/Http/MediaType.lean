/-!
# Media types

The parameters that a declared type of a body may have behind its name. A value is a bare word or
stands in quotes, where it may have any visible character and must have one.
-/

namespace LaunchDesk.Http

/-- Whether a character may be part of a bare word of a header. -/
def isTokenChar (c : Char) : Bool :=
  c.isAlphanum || "!#$%&'*+-.^_\x60|~".toList.contains c

/-- Whether a character may stand in quotes. -/
def isQuotable (c : Char) : Bool :=
  0x20 ≤ c.toNat && c.toNat < 0x7F

/-- A parameter of a media type. -/
structure MediaParameter where
  /-- The name, in any case. -/
  name : List Char
  /-- The value. -/
  value : List Char
  deriving DecidableEq, Repr

/-- A quoted value behind its first quote, and what stands behind its last one. -/
def quotedValue? : List Char → Option (List Char × List Char)
  | [] => none
  | c :: rest =>
      let inside := rest.takeWhile fun c => isQuotable c && c != '"'
      match isQuotable c, rest.drop inside.length with
      | true, '"' :: behind => some (c :: inside, behind)
      | _, _ => none

/-- What stands behind the semicolon that ends a parameter; nothing at the end of the type. -/
def behindSemicolon? : List Char → Option (List Char)
  | [] => some []
  | ';' :: rest => some rest
  | _ => none

/-- The first parameter of a text, and what stands behind it. A bare value may be missing at the
end. -/
def mediaParameter? (s : List Char) : Option (MediaParameter × List Char) :=
  let name := s.takeWhile isTokenChar
  match name, s.drop name.length with
  | _ :: _, '=' :: '"' :: rest => do
      let (value, rest) ← quotedValue? rest
      return (⟨name, value⟩, ← behindSemicolon? (rest.dropWhile (· == ' ')))
  | _ :: _, '=' :: rest =>
      let value := rest.takeWhile isTokenChar
      match value, rest.drop value.length with
      | [], _ :: _ => none
      | _, rest => (behindSemicolon? rest).map fun rest => (⟨name, value⟩, rest)
  | _, _ => none

theorem length_le_of_quotedValue? {s value rest : List Char}
    (h : quotedValue? s = some (value, rest)) : rest.length ≤ s.length := by
  unfold quotedValue? at h
  split at h
  · simp at h
  · next c tail =>
    dsimp only at h
    split at h
    · next behind _ hb =>
      obtain ⟨-, rfl⟩ := Prod.mk.inj (Option.some.inj h)
      have := congrArg List.length hb
      simp only [List.length_drop, List.length_cons] at this ⊢
      omega
    · simp at h

theorem length_le_of_behindSemicolon? {s rest : List Char} (h : behindSemicolon? s = some rest) :
    rest.length ≤ s.length := by
  unfold behindSemicolon? at h
  split at h <;> simp_all

theorem length_lt_of_mediaParameter? {s rest : List Char} {p : MediaParameter}
    (h : mediaParameter? s = some (p, rest)) : rest.length < s.length := by
  have drop_le (n : Nat) : (s.drop n).length ≤ s.length := by simp
  unfold mediaParameter? at h
  dsimp only at h
  split at h
  · next tail _ hd =>
    have hs := hd ▸ drop_le _
    simp only [bind, Option.bind_eq_some_iff, pure, Option.some.injEq, Prod.mk.injEq] at h
    obtain ⟨⟨value, behind⟩, hq, r, hr, -, rfl⟩ := h
    have h₁ := length_le_of_quotedValue? hq
    have h₂ : r.length ≤ (behind.dropWhile (· == ' ')).length := length_le_of_behindSemicolon? hr
    have h₃ := (List.dropWhile_sublist (· == ' ') (l := behind)).length_le
    simp only [List.length_cons] at hs
    omega
  · next tail _ _ hd =>
    have hs := hd ▸ drop_le _
    split at h
    · simp at h
    · simp only [Option.map_eq_some_iff, Prod.mk.injEq] at h
      obtain ⟨r, hr, -, rfl⟩ := h
      have h₁ := length_le_of_behindSemicolon? hr
      simp only [List.length_drop, List.length_cons] at h₁ hs
      omega
  · simp at h

/-- All parameters of a text; blanks may stand in front of each. -/
def mediaParameters? (s : List Char) : Option (List MediaParameter) :=
  if (s.dropWhile (· == ' ')).isEmpty then some []
  else
    match _ : mediaParameter? (s.dropWhile (· == ' ')) with
    | none => none
    | some (p, rest) => (mediaParameters? rest).map (p :: ·)
  termination_by s.length
  decreasing_by
    have := length_lt_of_mediaParameter? ‹_›
    have := (List.dropWhile_sublist (· == ' ') (l := s)).length_le
    omega

/-- The parameters of a media type. The first of them may follow its name behind a semicolon or a
blank. -/
def parametersOfType? (s : List Char) : Option (List MediaParameter) :=
  let kind := s.takeWhile isTokenChar
  match kind, s.drop kind.length with
  | _ :: _, '/' :: rest =>
      let subkind := rest.takeWhile isTokenChar
      match subkind, rest.drop subkind.length with
      | _, [] => some []
      | _ :: _, ';' :: rest => mediaParameters? rest
      | _ :: _, ' ' :: rest => mediaParameters? rest
      | _, _ => none
  | _, _ => none

/-- The value of the first parameter with a name in lower case, if the text is a media type. -/
def mediaParameterValue? (name : String) (mediaType : String) : Option String := do
  let found ← (← parametersOfType? mediaType.toList).find? fun p =>
    p.name.map Char.toLower == name.toList
  return String.ofList found.value

end LaunchDesk.Http
