import Mathlib.Data.List.DropRight
import RequirePath.Path.Within
import RequirePath.Proofs.Path.Spelling

/-! Containment by spelling and by names. A path is within another one if it goes on from that path without the slashes at
its end, so containment is reflexive and transitive. A path that is spelled as one within a normal path has the names of
that path before its own. The converse needs the slashes of the path to stand as they do in the normal one. -/

namespace RequirePath

namespace Pathname

open FileSystem (steps)

variable {path root directory : Pathname} {name : Filename} {names xs ys : List Filename} {p q : LexicalPath}
variable {anchor : Anchor}

/-- Names with a slash after each. -/
def slashed (names : List Filename) : Pathname := names.flatMap (· ++ [slash])

theorem slashed_cons (name : Filename) (names : List Filename) :
    slashed (name :: names) = name ++ slash :: slashed names := by
  rw [slashed, List.flatMap_cons, List.append_assoc, List.singleton_append, slashed]

theorem steps_append_slash (path rest : Pathname) : steps (path ++ slash :: rest) = steps path ++ steps rest := by
  rw [steps, Text.splitAt_append_cons, List.filter_append, steps, steps]

theorem steps_concat_slash (path : Pathname) : steps (path ++ [slash]) = steps path := by
  rw [steps_append_slash]
  exact List.append_nil _

theorem of_mem_steps (h : name ∈ steps path) : name ≠ [] ∧ slash ∉ name := by
  rw [steps, List.mem_filter] at h
  exact ⟨by simpa using h.2, Text.not_mem_of_mem_splitAt h.1⟩

theorem steps_of_notMem (hne : name ≠ []) (hs : slash ∉ name) : steps name = [name] := by
  rw [steps, Text.splitAt_of_not_mem hs]
  exact List.filter_cons_of_pos (by simpa using hne)

theorem steps_slashed (h : ∀ x ∈ names, x ≠ [] ∧ slash ∉ x) : steps (slashed names) = names := by
  induction names with
  | nil => rfl
  | cons x xs ih =>
      have hx := h x List.mem_cons_self
      have htail := ih fun y hy => h y (List.mem_cons_of_mem _ hy)
      rw [slashed_cons, steps_append_slash, steps_of_notMem hx.1 hx.2, htail]
      rfl

theorem steps_child (hne : name ≠ []) (hs : slash ∉ name) : steps (child path name) = steps path ++ [name] := by
  rw [child, steps_append_slash, steps_of_notMem hne hs]

/-- Slashed names start with others only name by name. -/
theorem slashed_prefix_iff (hx : ∀ x ∈ xs, slash ∉ x) (hy : ∀ y ∈ ys, slash ∉ y) :
    slashed xs <+: slashed ys ↔ xs <+: ys := by
  constructor
  · intro h
    induction xs generalizing ys with
    | nil => exact List.nil_prefix
    | cons x xs ih =>
        cases ys with
        | nil =>
            rw [slashed_cons] at h
            have := List.prefix_nil.1 h
            simp at this
        | cons y ys =>
            have hxs := hx x List.mem_cons_self
            have hys := hy y List.mem_cons_self
            obtain ⟨rest, hrest⟩ := h
            rw [slashed_cons, slashed_cons, List.append_assoc, List.cons_append] at hrest
            have hsplit := congrArg (Text.splitAt slash) hrest
            rw [Text.splitAt_append hxs, Text.splitAt_append hys] at hsplit
            obtain rfl : x = y := (List.cons.inj hsplit).1
            have htail := List.cons.inj (List.append_cancel_left hrest)
            have := ih (fun z hz => hx z (List.mem_cons_of_mem _ hz)) (fun z hz => hy z (List.mem_cons_of_mem _ hz))
              ⟨rest, htail.2⟩
            exact List.cons_prefix_cons.2 ⟨rfl, this⟩
  · rintro ⟨rest, rfl⟩
    rw [slashed, slashed, List.flatMap_append]
    exact List.prefix_append _ _

/-- The end of a path that ends in a slash ends in one too, or is empty. -/
theorem end_of_append {rest : Pathname} (h : (path ++ rest).getLast? = some slash) : rest = [] ∨ rest.getLast? = some slash := by
  rw [List.getLast?_append] at h
  cases hr : rest.getLast? with
  | none => exact Or.inl (List.getLast?_eq_none_iff.1 hr)
  | some b =>
      rw [hr] at h
      exact Or.inr h

/-- The start of slashed names up to a slash is that of some of them. -/
theorem exists_slashed_of_start (hn : ∀ x ∈ names, slash ∉ x) (h : path <+: slashed names)
    (hlast : path = [] ∨ path.getLast? = some slash) : ∃ xs, xs <+: names ∧ path = slashed xs := by
  induction names generalizing path with
  | nil => exact ⟨[], List.nil_prefix, List.prefix_nil.1 h⟩
  | cons x names ih =>
      rcases hlast with rfl | hlast
      · exact ⟨[], List.nil_prefix, rfl⟩
      have hx := hn x List.mem_cons_self
      have hfirst : x ++ [slash] <+: slashed (x :: names) := List.prefix_append _ _
      rcases List.prefix_or_prefix_of_prefix h hfirst with hp | ⟨rest, rfl⟩
      · rcases List.prefix_concat_iff.1 hp with rfl | hp
        · exact ⟨[x], List.cons_prefix_cons.2 ⟨rfl, List.nil_prefix⟩, by simp [slashed]⟩
        · exact absurd (hp.subset (List.mem_of_getLast? hlast)) hx
      · have hrest : rest <+: slashed names := by
          have hnames : slashed (x :: names) = x ++ [slash] ++ slashed names := List.flatMap_cons
          rw [hnames] at h
          exact (List.prefix_append_right_inj _).1 h
        obtain ⟨xs, hxs, rfl⟩ := ih (fun z hz => hn z (List.mem_cons_of_mem _ hz)) hrest (end_of_append hlast)
        exact ⟨x :: xs, List.cons_prefix_cons.2 ⟨rfl, hxs⟩, rfl⟩

theorem exists_of_isAbsolute (ha : isAbsolute path = true) : ∃ rest, path = slash :: rest := by
  cases path with
  | nil => cases ha
  | cons b rest => exact ⟨rest, by rw [Option.some.inj (eq_of_beq ha)]⟩

theorem isAbsolute_append (ha : isAbsolute path = true) (rest : Pathname) : isAbsolute (path ++ rest) = true := by
  obtain ⟨more, rfl⟩ := exists_of_isAbsolute ha
  rfl

/-! ### Containment -/

theorem joinNames_concat_slash (hne : names ≠ []) : LexicalPath.joinNames names ++ [slash] = slashed names := by
  induction names with
  | nil => exact absurd rfl hne
  | cons x xs ih =>
      cases xs with
      | nil => simp [LexicalPath.joinNames, slashed]
      | cons y ys =>
          rw [LexicalPath.joinNames_cons (List.cons_ne_nil _ _), List.append_assoc, List.cons_append,
            ih (List.cons_ne_nil _ _), ← slashed_cons]

theorem spelling_concat_slash (hp : p.Normal) (hne : p.names ≠ []) :
    p.spelling ++ [slash] = p.anchor.spelling ++ slashed p.names := by
  rw [LexicalPath.spelling_eq hp, List.append_assoc, joinNames_concat_slash hne]

/-- A path is spelled as another one and what follows it, after a slash. -/
def Extends (root path : Pathname) : Prop := root ++ [slash] <+: path ++ [slash]

theorem extends_refl (path : Pathname) : Extends path path := List.prefix_refl _

theorem Extends.child (h : Extends root directory) (name : Filename) : Extends root (child directory name) := by
  refine List.IsPrefix.trans h ⟨name ++ [slash], ?_⟩
  simp [Pathname.child]

theorem extends_append (path : Pathname) {rest : Pathname} (ha : isAbsolute rest = true) : Extends path (path ++ rest) := by
  obtain ⟨more, rfl⟩ := exists_of_isAbsolute ha
  exact ⟨more ++ [slash], by simp⟩

theorem Extends.ne_nil (h : Extends root directory) (hne : root ≠ []) : directory ≠ [] := by
  rintro rfl
  have hlen := h.length_le
  have hpos := List.length_pos_iff.2 hne
  simp only [List.length_append, List.length_singleton, List.length_nil] at hlen
  omega

theorem Extends.isAbsolute (h : Extends root directory) (ha : isAbsolute root = true) : isAbsolute directory = true := by
  obtain ⟨rest, rfl⟩ := exists_of_isAbsolute ha
  obtain ⟨b, more, rfl⟩ := List.exists_cons_of_ne_nil (h.ne_nil (List.cons_ne_nil _ _))
  obtain ⟨rfl, -⟩ := List.cons_prefix_cons.1 h
  rfl

theorem extends_nil_iff (hne : path ≠ []) : Extends [] path ↔ isAbsolute path = true := by
  obtain ⟨b, rest, rfl⟩ := List.exists_cons_of_ne_nil hne
  rw [Extends, List.nil_append, List.cons_append, List.cons_prefix_cons, isAbsolute, List.head?_cons, beq_iff_eq,
    Option.some_inj, eq_comm]
  exact and_iff_left List.nil_prefix

/-! ### Slashes at the end -/

/-- A path without the slashes at its end; nothing is left of the root. -/
def withoutEndSlashes (path : Pathname) : Pathname := Text.dropEndWhile (· == slash) path

theorem withoutEndSlashes_eq_rdropWhile (path : Pathname) : withoutEndSlashes path = path.rdropWhile (· == slash) := rfl

theorem withoutEndSlashes_eq_self (hlast : path.getLast? ≠ some slash) : withoutEndSlashes path = path := by
  refine List.rdropWhile_eq_self_iff.2 fun hne he => hlast ?_
  rw [List.getLast?_eq_some_getLast hne, eq_of_beq he]

theorem getLast?_withoutEndSlashes (path : Pathname) : (withoutEndSlashes path).getLast? ≠ some slash := by
  intro hlast
  have hne : withoutEndSlashes path ≠ [] := by
    intro he
    rw [he] at hlast
    cases hlast
  rw [List.getLast?_eq_some_getLast hne] at hlast
  exact List.rdropWhile_last_not (· == slash) path hne (beq_iff_eq.2 (Option.some.inj hlast))

/-- A slash more at the end of a path does not put it into another directory. -/
theorem extends_concat_slash (hlast : root.getLast? ≠ some slash) : Extends root (path ++ [slash]) ↔ Extends root path := by
  rw [Extends, List.prefix_concat_iff, Extends, or_iff_right]
  intro he
  rw [List.append_cancel_right he, List.getLast?_concat] at hlast
  exact hlast rfl

theorem extends_withoutEndSlashes_iff (hlast : root.getLast? ≠ some slash) :
    Extends root (withoutEndSlashes path) ↔ Extends root path := by
  rw [withoutEndSlashes_eq_rdropWhile]
  induction path using List.reverseRecOn with
  | nil => rfl
  | append_singleton front b ih =>
      by_cases hb : b = slash
      · rw [List.rdropWhile_concat_pos (· == slash) front b (beq_iff_eq.2 hb), ih, hb, extends_concat_slash hlast]
      · rw [List.rdropWhile_concat_neg (· == slash) front b fun he => hb (eq_of_beq he)]

/-! ### Containment -/

theorem dropEndSlashes_of_root (hw : withoutEndSlashes root = []) : dropEndSlashes root = [slash] := by
  rw [withoutEndSlashes] at hw
  rw [dropEndSlashes, hw]

theorem dropEndSlashes_of_ne (hw : withoutEndSlashes root ≠ []) : dropEndSlashes root = withoutEndSlashes root := by
  rw [dropEndSlashes]
  split
  · next hnil => exact absurd hnil hw
  · rfl

theorem stem_dropEndSlashes (root : Pathname) : stem (dropEndSlashes root) = withoutEndSlashes root ++ [slash] := by
  by_cases hw : withoutEndSlashes root = []
  · rw [dropEndSlashes_of_root hw, hw]
    rfl
  · rw [dropEndSlashes_of_ne hw, stem, if_neg fun he => getLast?_withoutEndSlashes root (eq_of_beq he)]

/-- Containment is that of spellings, where the slashes at the end of the outer path do not count and neither path is
empty. -/
theorem isWithin_iff : isWithin path root = true ↔ root ≠ [] ∧ path ≠ [] ∧ Extends (withoutEndSlashes root) path := by
  by_cases hroot : root = []
  · rw [hroot]
    exact ⟨nofun, fun h => absurd rfl h.1⟩
  have hspelled : isWithin path root = true ↔ path = dropEndSlashes root ∨ withoutEndSlashes root ++ [slash] <+: path := by
    rw [isWithin, if_neg fun he => hroot (List.isEmpty_iff.1 he)]
    dsimp only
    rw [stem_dropEndSlashes, Bool.or_eq_true, beq_iff_eq, List.isPrefixOf_iff_prefix]
  have hextends : Extends (withoutEndSlashes root) path ↔
      path = withoutEndSlashes root ∨ withoutEndSlashes root ++ [slash] <+: path := by
    rw [Extends, List.prefix_concat_iff, List.append_left_inj]
    exact or_congr_left eq_comm
  rw [hspelled, hextends]
  by_cases hw : withoutEndSlashes root = []
  -- the root lies in itself as every path that starts with a slash does
  · rw [dropEndSlashes_of_root hw, hw]
    constructor
    · rintro (rfl | h)
      · exact ⟨hroot, List.cons_ne_nil _ _, Or.inr (List.prefix_refl _)⟩
      · exact ⟨hroot, List.IsPrefix.ne_nil h (List.cons_ne_nil _ _), Or.inr h⟩
    · rintro ⟨-, hne, rfl | h⟩
      · exact absurd rfl hne
      · exact Or.inr h
  · rw [dropEndSlashes_of_ne hw, ← hextends]
    exact ⟨fun h => ⟨hroot, h.ne_nil hw, h⟩, fun h => h.2.2⟩

theorem isWithin_refl (hne : path ≠ []) : isWithin path path = true := by
  refine isWithin_iff.2 ⟨hne, hne, ?_⟩
  exact (extends_withoutEndSlashes_iff (getLast?_withoutEndSlashes path)).1 (extends_refl _)

/-- What a path goes on to is within what the path is within. -/
theorem isWithin_mono (hd : Extends directory path) (h : isWithin directory root = true) : isWithin path root = true := by
  obtain ⟨hroot, hne, hdirectory⟩ := isWithin_iff.1 h
  exact isWithin_iff.2 ⟨hroot, hd.ne_nil hne, List.IsPrefix.trans hdirectory hd⟩

/-- The path in the middle loses the slashes at its end as the outer path but keeps them as the inner one, which makes no
difference to what it goes on from. -/
theorem isWithin_trans (h : isWithin path directory = true) (h' : isWithin directory root = true) :
    isWithin path root = true := by
  obtain ⟨-, hpath, hinner⟩ := isWithin_iff.1 h
  obtain ⟨hroot, -, houter⟩ := isWithin_iff.1 h'
  have hmiddle : Extends (withoutEndSlashes root) (withoutEndSlashes directory) :=
    (extends_withoutEndSlashes_iff (getLast?_withoutEndSlashes root)).2 houter
  exact isWithin_iff.2 ⟨hroot, hpath, List.IsPrefix.trans hmiddle hinner⟩

/-- Containment in a normal path other than the root is that of spellings with a slash after them. -/
theorem isWithin_spelling_iff (hp : p.Normal) (hne : p.names ≠ []) :
    isWithin path p.spelling = true ↔ Extends p.spelling path := by
  have hlast : p.spelling.getLast? ≠ some slash := beq_eq_false_iff_ne.1 (LexicalPath.endsInSlash_spelling hp hne)
  have hnil := LexicalPath.spelling_ne_nil hp
  rw [isWithin_iff, withoutEndSlashes_eq_self hlast]
  exact ⟨fun h => h.2.2, fun h => ⟨hnil, h.ne_nil hnil, h⟩⟩

/-- The root is spelled in two ways. -/
theorem spelling_root (hp : p.Normal) (hn : p.names = []) : p.spelling = [slash] ∨ p.spelling = [slash, slash] := by
  rw [LexicalPath.spelling_eq hp, hn]
  have habs := hp.isAbsolute
  unfold LexicalPath.isAbsolute at habs
  cases hanchor : p.anchor with
  | relative => simp [hanchor] at habs
  | root => exact Or.inl rfl
  | doubleRoot => exact Or.inr rfl

/-- The absolute paths are those within the root. -/
theorem isWithin_root_iff (hp : p.Normal) (hn : p.names = []) : isWithin path p.spelling = true ↔ isAbsolute path = true := by
  have hslashes : withoutEndSlashes p.spelling = [] := by
    rcases spelling_root hp hn with h | h
    all_goals
      rw [h]
      rfl
  rw [isWithin_iff, hslashes]
  constructor
  · rintro ⟨-, hne, h⟩
    exact (extends_nil_iff hne).1 h
  · intro ha
    have hne : path ≠ [] := by
      rintro rfl
      cases ha
    exact ⟨LexicalPath.spelling_ne_nil hp, hne, (extends_nil_iff hne).2 ha⟩

theorem isWithin_root (hp : p.Normal) (hn : p.names = []) (ha : isAbsolute path = true) :
    isWithin path p.spelling = true :=
  (isWithin_root_iff hp hn).2 ha

/-- Only absolute paths are within a normal path. -/
theorem isAbsolute_of_isWithin (hp : p.Normal) (h : isWithin path p.spelling = true) : isAbsolute path = true := by
  by_cases hne : p.names = []
  · exact (isWithin_root_iff hp hne).1 h
  · exact ((isWithin_spelling_iff hp hne).1 h).isAbsolute (LexicalPath.isAbsolute_spelling hp)

/-- What is spelled within a normal path has its names first. -/
theorem prefix_of_isWithin (hp : p.Normal) (h : isWithin path p.spelling = true) : p.names <+: steps path := by
  by_cases hne : p.names = []
  · rw [hne]
    exact List.nil_prefix
  · obtain ⟨rest, hrest⟩ := (isWithin_spelling_iff hp hne).1 h
    have := congrArg steps hrest
    rw [List.append_assoc, List.singleton_append, steps_append_slash, steps_concat_slash,
      LexicalPath.steps_spelling hp] at this
    exact ⟨_, this⟩

/-! ### Tidy paths -/

/-- The slashes of a path stand as in a normal one: those of the anchor at the front, and one after each name if
one is put at the end. -/
def IsTidy (anchor : Anchor) (path : Pathname) : Prop := path ++ [slash] = anchor.spelling ++ slashed (steps path)

instance (anchor : Anchor) (path : Pathname) : Decidable (IsTidy anchor path) :=
  inferInstanceAs (Decidable (path ++ [slash] = anchor.spelling ++ slashed (steps path)))

example : IsTidy .root (ofText "/srv/gems") ∧ ¬IsTidy .root (ofText "/srv/") ∧ ¬IsTidy .root (ofText "/") := by decide

theorem IsTidy.child (h : IsTidy anchor path) (hne : name ≠ []) (hs : slash ∉ name) :
    IsTidy anchor (child path name) := by
  rw [IsTidy, steps_child hne hs, slashed, List.flatMap_append, ← List.append_assoc, ← slashed, ← h, Pathname.child]
  simp

/-- A tidy path is spelled within a normal one if it has its names first. -/
theorem IsTidy.isWithin_of_names (h : IsTidy p.anchor path) (hp : p.Normal) (ha : isAbsolute path = true)
    (hn : p.names <+: steps path) : isWithin path p.spelling = true := by
  by_cases hne : p.names = []
  · exact isWithin_root hp hne ha
  · rw [isWithin_spelling_iff hp hne, Extends, h, spelling_concat_slash hp hne, List.prefix_append_right_inj]
    exact (slashed_prefix_iff (fun x hx => (hp.plain x hx).slash_notMem) fun y hy => (of_mem_steps hy).2).2 hn

/-- Of normal paths with one anchor, the one that has the names of the other first is within it. -/
theorem isWithin_spelling_spelling_iff (hp : p.Normal) (hq : q.Normal) (ha : p.names ≠ [] → q.anchor = p.anchor) :
    isWithin q.spelling p.spelling = true ↔ p.names <+: q.names := by
  constructor
  · intro h
    have := prefix_of_isWithin hp h
    rwa [LexicalPath.steps_spelling hq] at this
  · intro h
    have habsolute := LexicalPath.isAbsolute_spelling hq
    by_cases hne : p.names = []
    · exact isWithin_root hp hne habsolute
    · have hqne : q.names ≠ [] := fun hnil => hne (List.prefix_nil.1 (hnil ▸ h))
      have htidy : IsTidy p.anchor q.spelling := by
        rw [IsTidy, spelling_concat_slash hq hqne, LexicalPath.steps_spelling hq, ha hne]
      exact htidy.isWithin_of_names hp habsolute (by rwa [LexicalPath.steps_spelling hq])

/-- If a path is not within a normal one but goes on to a path that is, it is tidy. -/
theorem isTidy_of_isWithin (hp : p.Normal) (ha : isAbsolute root = true) (hd : Extends root directory)
    (hroot : isWithin root p.spelling = false) (h : isWithin directory p.spelling = true) : IsTidy p.anchor root := by
  have hne : p.names ≠ [] := by
    intro hnil
    rw [isWithin_root hp hnil ha] at hroot
    cases hroot
  -- both spellings start that of the directory, so one of the two starts the other
  rcases List.prefix_or_prefix_of_prefix ((isWithin_spelling_iff hp hne).1 h) hd with hup | hdown
  · rw [(isWithin_spelling_iff hp hne).2 hup] at hroot
    cases hroot
  rw [spelling_concat_slash hp hne] at hdown
  have hlen : p.anchor.spelling.length ≤ (root ++ [slash]).length := by
    have hpos : 0 < root.length := by
      cases root with
      | nil => cases ha
      | cons b rest => exact Nat.succ_pos _
    have hanchor : p.anchor.spelling.length ≤ 2 := by cases p.anchor <;> decide
    rw [List.length_append, List.length_singleton]
    omega
  obtain ⟨rest, hrest⟩ := List.prefix_of_prefix_length_le (List.prefix_append _ (slashed p.names)) hdown hlen
  rw [← hrest, List.prefix_append_right_inj] at hdown
  have hlast : rest = [] ∨ rest.getLast? = some slash := end_of_append (by rw [hrest, List.getLast?_concat])
  obtain ⟨xs, hxs, rfl⟩ := exists_slashed_of_start (fun x hx => (hp.plain x hx).slash_notMem) hdown hlast
  have hsteps : steps root = xs := by
    have hplain : ∀ x ∈ xs, x ≠ [] ∧ slash ∉ x := fun x hx =>
      ⟨(hp.plain x (hxs.subset hx)).ne_nil, (hp.plain x (hxs.subset hx)).slash_notMem⟩
    have hall := congrArg steps hrest
    rw [steps_concat_slash] at hall
    rw [← hall, LexicalPath.steps_anchor_append, steps_slashed hplain]
  rw [IsTidy, hsteps, hrest]

end Pathname

end RequirePath
