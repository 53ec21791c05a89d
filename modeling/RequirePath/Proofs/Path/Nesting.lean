import RequirePath.Proofs.Path.Within

/-! Containment as an order of directories. Between absolute paths in canonical form it is the order of their components:
one directory is within another exactly if the components of the other come first. Between any paths, however many slashes
they have and wherever they start, it is reflexive and transitive. -/

namespace RequirePath.Pathname

variable {path root directory rest : Pathname} {zones : List Pathname} {name : Filename}

/-! ### Components -/

/-- The components of an absolute path: the pieces after its first slash. The root has none. -/
def components (path : Pathname) : List Filename :=
  if path = [slash] then [] else (Text.splitAt slash path).tail

/-- An absolute path in canonical form: no component is empty, a dot or a double dot. A slash at the end, and one that
follows another, would make an empty one. -/
structure IsCanonical (path : Pathname) : Prop where
  isAbsolute : isAbsolute path = true
  components : ∀ name ∈ components path, name ≠ [] ∧ name ≠ dot ∧ name ≠ dotDot

instance (path : Pathname) : Decidable (IsCanonical path) :=
  decidable_of_iff (isAbsolute path = true ∧ ∀ name ∈ components path, name ≠ [] ∧ name ≠ dot ∧ name ≠ dotDot)
    ⟨fun ⟨h₁, h₂⟩ => ⟨h₁, h₂⟩, fun h => ⟨h.1, h.2⟩⟩

theorem components_cons_slash (hne : rest ≠ []) : components (slash :: rest) = Text.splitAt slash rest := by
  have hroot : slash :: rest ≠ [slash] := fun he => hne (List.cons.inj he).2
  rw [components, if_neg hroot, Text.splitAt_cons_self, List.tail_cons]

theorem slash_notMem_of_mem_components (h : name ∈ components path) : slash ∉ name := by
  rw [components] at h
  split_ifs at h
  · cases h
  · exact Text.not_mem_of_mem_splitAt (List.mem_of_mem_tail h)

/-- A path in canonical form spells a normal path below the one root, with the same names. -/
theorem IsCanonical.exists_normal (h : IsCanonical path) :
    ∃ p : LexicalPath, p.Normal ∧ p.anchor = .root ∧ p.names = Pathname.components path ∧ p.spelling = path := by
  obtain ⟨rest, rfl⟩ := exists_of_isAbsolute h.isAbsolute
  refine ⟨⟨.root, Pathname.components (slash :: rest)⟩, ⟨rfl, fun name hm => ?_⟩, rfl, rfl, ?_⟩
  · obtain ⟨hne, hdot, hdotDot⟩ := h.components name hm
    exact ⟨hne, slash_notMem_of_mem_components hm, hdot, hdotDot⟩
  · by_cases hrest : rest = []
    · rw [hrest]
      rfl
    · have hspelling (names : List Filename) :
          LexicalPath.spelling ⟨.root, names⟩ = slash :: LexicalPath.joinNames names := rfl
      rw [hspelling, components_cons_slash hrest, LexicalPath.joinNames_splitAt]

/-! ### Containment -/

/-- Between paths in canonical form, containment is that of components. -/
theorem IsCanonical.isWithin_iff (hp : IsCanonical path) (hr : IsCanonical root) :
    isWithin path root = true ↔ Pathname.components root <+: Pathname.components path := by
  obtain ⟨p, hnormal, hanchor, hnames, rfl⟩ := hp.exists_normal
  obtain ⟨q, hnormal', hanchor', hnames', rfl⟩ := hr.exists_normal
  rw [isWithin_spelling_spelling_iff hnormal' hnormal fun _ => hanchor.trans hanchor'.symm, hnames, hnames']

theorem isWithinAny_iff : isWithinAny path zones = true ↔ ∃ zone ∈ zones, isWithin path zone = true :=
  List.any_eq_true

/-- What lies in a directory lies in the zones that the directory lies in. -/
theorem isWithinAny_trans (h : isWithin path directory = true) (h' : isWithinAny directory zones = true) :
    isWithinAny path zones = true := by
  obtain ⟨zone, hzone, hwithin⟩ := isWithinAny_iff.1 h'
  exact isWithinAny_iff.2 ⟨zone, hzone, isWithin_trans h hwithin⟩

/-- Containment is that of directories. Between paths in canonical form it is decided by their components. Every path but
the empty one is within itself; and what is within a directory is within all that the directory is within, be it one
path or one of several zones. -/
theorem isWithin_nests :
    (∀ path root, IsCanonical path → IsCanonical root →
      (isWithin path root = true ↔ components root <+: components path)) ∧
    (∀ path, path ≠ [] → isWithin path path = true) ∧
    (∀ path directory root, isWithin path directory = true → isWithin directory root = true →
      isWithin path root = true) ∧
    ∀ path directory zones, isWithin path directory = true → isWithinAny directory zones = true →
      isWithinAny path zones = true :=
  ⟨fun _ _ => IsCanonical.isWithin_iff, fun _ => isWithin_refl, fun _ _ _ => isWithin_trans,
    fun _ _ _ => isWithinAny_trans⟩

/-- A directory beside another one whose name it goes on from, the root in its two spellings, and a directory of a zone with
more slashes than it needs. -/
theorem isWithin_nests_sample :
    IsCanonical (ofText "/srv/app-gems") ∧ IsCanonical (ofText "/srv/app") ∧
    (isWithin (ofText "/srv/app-gems") (ofText "/srv/app") = true ↔
      components (ofText "/srv/app") <+: components (ofText "/srv/app-gems")) ∧
    isWithin (ofText "lib//") (ofText "lib//") = true ∧
    isWithin (ofText "//srv") (ofText "//") = true ∧ isWithin (ofText "//") (ofText "/") = true ∧
    isWithin (ofText "//srv") (ofText "/") = true ∧
    isWithinAny (ofText "lib/") [ofText "gems", ofText "lib"] = true ∧ isWithin (ofText "lib//x") (ofText "lib/") = true ∧
    isWithinAny (ofText "lib//x") [ofText "gems", ofText "lib"] = true := by
  obtain ⟨hcomponents, hrefl, htrans, hzones⟩ := isWithin_nests
  exact ⟨by decide, by decide, hcomponents _ _ (by decide) (by decide), hrefl _ (by decide), by decide, by decide,
    htrans _ (ofText "//") _ (by decide) (by decide), by decide, by decide,
    hzones _ (ofText "lib/") _ (by decide) (by decide)⟩

end RequirePath.Pathname
