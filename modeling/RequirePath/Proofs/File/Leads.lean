import RequirePath.File.Resolve
import RequirePath.Proofs.File.Nodes

/-! The meaning of a path as a derivation: each rule is one name that is looked up, and a rule for a link goes
on from the start of its target. A derivation counts the links that it follows and has no bound on them. A
path leads to at most one place, and the way to it can be cut and joined between any two names. -/

namespace RequirePath.FileSystem

variable {fs : FileSystem} {follow must must' : Bool} {links links' n : Nat} {here d : Location}
variable {name : Filename} {rest names xs ys : List Filename} {p p' : Place} {node : Node} {target : Pathname}

/-- A directory that may be searched. -/
def IsOpen (fs : FileSystem) (place : Location) : Prop :=
  fs.isDirectoryAt place = true ∧ fs.isSearchable place = true

/-- A name that an entry of a directory may have. -/
def IsEntryName (name : Filename) : Prop :=
  name ≠ dot ∧ name ≠ dotDot ∧ name.length ≤ nameLimit

/-- Where the target of a link starts, which lies in the directory at a place. -/
def linkStart (here : Location) (target : Pathname) : Location :=
  if Pathname.isAbsolute target then [] else here

/-- Names lead from a place to another one, through a number of links. -/
inductive Leads (fs : FileSystem) (follow : Bool) : Nat → Bool → Location → List Filename → Place → Prop
  | arrive {must : Bool} {here : Location} (hd : must = true → fs.isDirectoryAt here = true) :
      Leads fs follow 0 must here [] (.found here)
  | stay {links : Nat} {must : Bool} {here : Location} {rest : List Filename} {p : Place} (ho : fs.IsOpen here)
      (h : Leads fs follow links must here rest p) : Leads fs follow links must here (dot :: rest) p
  | climb {links : Nat} {must : Bool} {here : Location} {rest : List Filename} {p : Place} (ho : fs.IsOpen here)
      (h : Leads fs follow links must here.tail rest p) : Leads fs follow links must here (dotDot :: rest) p
  | miss {must : Bool} {here : Location} {name : Filename} (ho : fs.IsOpen here) (hn : IsEntryName name)
      (hv : fs.node? (name :: here) = none) : Leads fs follow 0 must here [name] (.vacant here name)
  | enter {links : Nat} {must : Bool} {here : Location} {name : Filename} {rest : List Filename} {p : Place}
      {node : Node} (ho : fs.IsOpen here) (hn : IsEntryName name) (hm : fs.node? (name :: here) = some node)
      (hl : node.isLink = false) (h : Leads fs follow links must (name :: here) rest p) :
      Leads fs follow links must here (name :: rest) p
  | halt {here : Location} {name : Filename} {node : Node} (hf : follow = false) (ho : fs.IsOpen here)
      (hn : IsEntryName name) (hm : fs.node? (name :: here) = some node) (hl : node.isLink = true) :
      Leads fs follow 0 false here [name] (.found (name :: here))
  | jump {links : Nat} {must : Bool} {here : Location} {name : Filename} {rest : List Filename} {p : Place}
      {node : Node} {target : Pathname} (ho : fs.IsOpen here) (hn : IsEntryName name)
      (hm : fs.node? (name :: here) = some node) (hl : node.content = .link target)
      (hs : rest = [] → follow = true ∨ must = true) (ht : target ≠ [])
      (h : Leads fs follow links (must || (rest.isEmpty && endsInSlash target)) (linkStart here target)
        (steps target ++ rest) p) : Leads fs follow (links + 1) must here (name :: rest) p

/-! ### Derivations and lookups -/

/-- What is done at a link when a number of links may still be followed. -/
def followLink (fs : FileSystem) (follow : Bool) (links : Nat) (must : Bool) (here : Location)
    (target : Pathname) (rest : List Filename) : Except Errno Place :=
  match links with
  | 0 => .error .tooManyLinks
  | links + 1 =>
    if target.isEmpty then .error .noEntry
    else resolveFrom fs follow links (must || (rest.isEmpty && endsInSlash target)) (linkStart here target)
      (steps target ++ rest)

theorem resolveFrom_nil : resolveFrom fs follow n must here [] =
    if must && !fs.isDirectoryAt here then .error .notDirectory else .ok (.found here) := by
  cases n <;> rfl

theorem resolveFrom_cons : resolveFrom fs follow n must here (name :: rest) =
    if !fs.isDirectoryAt here then .error .notDirectory
    else if !fs.isSearchable here then .error .accessDenied
    else if name = dot then resolveFrom fs follow n must here rest
    else if name = dotDot then resolveFrom fs follow n must here.tail rest
    else if nameLimit < name.length then .error .nameTooLong
    else
      match fs.node? (name :: here) with
      | none => if rest.isEmpty then .ok (.vacant here name) else .error .noEntry
      | some node =>
        match node.content with
        | .link target =>
          if rest.isEmpty && !follow && !must then .ok (.found (name :: here))
          else followLink fs follow n must here target rest
        | _ => resolveFrom fs follow n must (name :: here) rest := by
  cases n <;> rfl

theorem isOpen_of_resolveFrom (h : resolveFrom fs follow n must here (name :: rest) = .ok p) : fs.IsOpen here := by
  rw [resolveFrom_cons] at h
  constructor
  · cases hd : fs.isDirectoryAt here with
    | false => simp [hd] at h
    | true => rfl
  · cases hs : fs.isSearchable here with
    | false =>
        rw [hs] at h
        split at h <;> cases h
    | true => rfl

theorem isLink_iff : node.isLink = true ↔ ∃ target, node.content = .link target := by
  unfold Node.isLink
  cases node.content <;> simp

theorem isLink_eq_false_of_isDirectoryAt (hd : fs.isDirectoryAt here = true) (hn : fs.node? here = some node) :
    node.isLink = false := by
  rw [isDirectoryAt_of_node? hn] at hd
  rw [Node.isLink, eq_of_beq hd]

/-- A name that is neither of the dot names is looked up in the directory. -/
theorem resolveFrom_entry (ho : fs.IsOpen here) (hn : IsEntryName name) :
    resolveFrom fs follow n must here (name :: rest) =
      match fs.node? (name :: here) with
      | none => if rest.isEmpty then .ok (.vacant here name) else .error .noEntry
      | some node =>
        match node.content with
        | .link target =>
          if rest.isEmpty && !follow && !must then .ok (.found (name :: here))
          else followLink fs follow n must here target rest
        | _ => resolveFrom fs follow n must (name :: here) rest := by
  rw [resolveFrom_cons, ho.1, ho.2, if_neg hn.1, if_neg hn.2.1, if_neg (Nat.not_lt.2 hn.2.2)]
  rfl

theorem resolveFrom_enter (ho : fs.IsOpen here) (hn : IsEntryName name) (hm : fs.node? (name :: here) = some node)
    (hl : node.isLink = false) :
    resolveFrom fs follow n must here (name :: rest) = resolveFrom fs follow n must (name :: here) rest := by
  rw [resolveFrom_entry ho hn, hm]
  unfold Node.isLink at hl
  cases hc : node.content <;> simp_all

theorem resolveFrom_link (ho : fs.IsOpen here) (hn : IsEntryName name) (hm : fs.node? (name :: here) = some node)
    (hl : node.content = .link target) :
    resolveFrom fs follow n must here (name :: rest) =
      if rest.isEmpty && !follow && !must then .ok (.found (name :: here))
      else followLink fs follow n must here target rest := by
  rw [resolveFrom_entry ho hn, hm]
  simp only [hl]

theorem Leads.resolveFrom_eq (h : Leads fs follow links must here names p) (hn : links ≤ n) :
    resolveFrom fs follow n must here names = .ok p := by
  induction h generalizing n with
  | arrive hd =>
      rw [resolveFrom_nil, if_neg]
      simpa using hd
  | stay ho h ih =>
      rw [resolveFrom_cons, ho.1, ho.2]
      exact ih hn
  | climb ho h ih =>
      rw [resolveFrom_cons, ho.1, ho.2]
      exact ih hn
  | miss ho hn' hv =>
      rw [resolveFrom_entry ho hn', hv]
      rfl
  | enter ho hn' hm hl h ih =>
      rw [resolveFrom_enter ho hn' hm hl]
      exact ih hn
  | halt hf ho hn' hm hl =>
      obtain ⟨target, hc⟩ := isLink_iff.1 hl
      rw [resolveFrom_link ho hn' hm hc, hf]
      rfl
  | @jump links must here name rest p node target ho hn' hm hl hs ht h ih =>
      obtain ⟨n, rfl⟩ : ∃ m, n = m + 1 := ⟨n - 1, by omega⟩
      have hgo : (rest.isEmpty && !follow && !must) = false := by
        cases rest with
        | nil => rcases hs rfl with h | h <;> simp [h]
        | cons _ _ => rfl
      rw [resolveFrom_link ho hn' hm hl]
      simp only [hgo, Bool.false_eq_true, if_false, followLink, List.isEmpty_iff, ht]
      exact ih (by omega)

/-- The first name of a lookup that gives a place is a dot name, or is looked up and free, entered, or a link
that is given or followed. -/
theorem resolveFrom_cons_cases (h : resolveFrom fs follow n must here (name :: rest) = .ok p) :
    fs.IsOpen here ∧
      (name = dot ∧ resolveFrom fs follow n must here rest = .ok p ∨
      name = dotDot ∧ resolveFrom fs follow n must here.tail rest = .ok p ∨
      IsEntryName name ∧
        (fs.node? (name :: here) = none ∧ rest = [] ∧ p = .vacant here name ∨
        ∃ node, fs.node? (name :: here) = some node ∧
          (node.isLink = false ∧ resolveFrom fs follow n must (name :: here) rest = .ok p ∨
          node.isLink = true ∧ rest = [] ∧ follow = false ∧ must = false ∧ p = .found (name :: here) ∨
          ∃ target, node.content = .link target ∧ (rest = [] → follow = true ∨ must = true) ∧
            followLink fs follow n must here target rest = .ok p))) := by
  have ho := isOpen_of_resolveFrom h
  refine ⟨ho, ?_⟩
  by_cases hn : IsEntryName name
  · refine Or.inr (Or.inr ⟨hn, ?_⟩)
    cases hm : fs.node? (name :: here) with
    | none =>
        simp only [resolveFrom_entry ho hn, hm] at h
        split_ifs at h with hr
        exact Or.inl ⟨rfl, List.isEmpty_iff.1 hr, (Except.ok.inj h).symm⟩
    | some node =>
        refine Or.inr ⟨node, rfl, ?_⟩
        cases hlink : node.isLink with
        | false =>
            rw [resolveFrom_enter ho hn hm hlink] at h
            exact Or.inl ⟨rfl, h⟩
        | true =>
            obtain ⟨target, hc⟩ := isLink_iff.1 hlink
            rw [resolveFrom_link ho hn hm hc] at h
            split_ifs at h with hhalt
            · simp only [Bool.and_eq_true, Bool.not_eq_true', List.isEmpty_iff] at hhalt
              obtain ⟨⟨hr, hf⟩, hmust⟩ := hhalt
              exact Or.inr (Or.inl ⟨rfl, hr, hf, hmust, (Except.ok.inj h).symm⟩)
            · refine Or.inr (Or.inr ⟨target, hc, ?_, h⟩)
              rintro rfl
              cases follow with
              | false => exact Or.inr (by simpa using hhalt)
              | true => exact Or.inl rfl
  · rw [resolveFrom_cons, ho.1, ho.2] at h
    by_cases hdot : name = dot
    · exact Or.inl ⟨hdot, by rwa [if_pos hdot] at h⟩
    by_cases hup : name = dotDot
    · exact Or.inr (Or.inl ⟨hup, by rwa [if_neg hdot, if_pos hup] at h⟩)
    have hlong : nameLimit < name.length := Nat.lt_of_not_le fun hle => hn ⟨hdot, hup, hle⟩
    rw [if_neg hdot, if_neg hup, if_pos hlong] at h
    cases h

theorem Leads.of_resolveFrom_eq (h : resolveFrom fs follow n must here names = .ok p) :
    ∃ links, links ≤ n ∧ Leads fs follow links must here names p := by
  -- a link takes one from the bound and puts its target before the names; any other name is taken off
  induction n using Nat.strongRecOn generalizing must here names p with
  | _ n ihn =>
    induction names generalizing here with
    | nil =>
        rw [resolveFrom_nil] at h
        split_ifs at h with hd
        cases h
        exact ⟨0, Nat.zero_le _, .arrive (by simpa using hd)⟩
    | cons name rest ih =>
        obtain ⟨ho, ⟨rfl, hrest⟩ | ⟨rfl, hrest⟩ | ⟨hn, ⟨hm, rfl, rfl⟩ | ⟨node, hm, hnode⟩⟩⟩ := resolveFrom_cons_cases h
        · obtain ⟨links, hk, hl⟩ := ih hrest
          exact ⟨links, hk, .stay ho hl⟩
        · obtain ⟨links, hk, hl⟩ := ih hrest
          exact ⟨links, hk, .climb ho hl⟩
        · exact ⟨0, Nat.zero_le _, .miss ho hn hm⟩
        rcases hnode with ⟨hl, hrest⟩ | ⟨hl, rfl, hf, rfl, rfl⟩ | ⟨target, hl, hs, hgo⟩
        · obtain ⟨links, hk, hleads⟩ := ih hrest
          exact ⟨links, hk, .enter ho hn hm hl hleads⟩
        · exact ⟨0, Nat.zero_le _, .halt hf ho hn hm hl⟩
        cases n with
        | zero => cases hgo
        | succ n =>
            simp only [followLink] at hgo
            split_ifs at hgo with ht
            obtain ⟨links, hk, hleads⟩ := ihn n (Nat.lt_succ_self n) hgo
            exact ⟨links + 1, Nat.succ_le_succ hk, .jump ho hn hm hl hs (by simpa using ht) hleads⟩

/-- Looking names up with a bound on links gives a place exactly if the names lead there within it. -/
theorem resolveFrom_eq_ok_iff : resolveFrom fs follow n must here names = .ok p ↔
    ∃ links, links ≤ n ∧ Leads fs follow links must here names p :=
  ⟨Leads.of_resolveFrom_eq, fun ⟨_, hk, hl⟩ => hl.resolveFrom_eq hk⟩

/-- Names lead to at most one place. -/
theorem Leads.unique (h : Leads fs follow links must here names p)
    (h' : Leads fs follow links' must here names p') : p = p' := by
  have h₁ := h.resolveFrom_eq (Nat.le_max_left links links')
  rw [h'.resolveFrom_eq (Nat.le_max_right links links')] at h₁
  exact (Except.ok.inj h₁).symm

/-! ### Cutting and joining ways -/

/-- A way goes on from where its first names lead. -/
theorem Leads.append (h : Leads fs true links must here xs (.found d))
    (h' : Leads fs follow links' must' d ys p) (hys : ys ≠ []) :
    Leads fs follow (links + links') must' here (xs ++ ys) p := by
  generalize hq : Place.found d = q at h
  induction h with
  | arrive hd =>
      cases hq
      rwa [Nat.zero_add]
  | stay ho' h ih => exact .stay ho' (ih hq)
  | climb ho' h ih => exact .climb ho' (ih hq)
  | miss ho' hn hv => cases hq
  | enter ho' hn hm hl h ih => exact .enter ho' hn hm hl (ih hq)
  | halt hf ho' hn hm hl => cases hf
  | @jump links must here name rest p node target ho' hn hm hl hs ht h ih =>
      have hne : (rest ++ ys).isEmpty = false := by simp [hys]
      rw [Nat.add_right_comm, List.cons_append]
      refine .jump ho' hn hm hl (fun h => absurd h (by simp [hys])) ht ?_
      rw [hne, Bool.false_and, Bool.or_false, ← List.append_assoc]
      exact ih hq

theorem Leads.isOpen_of_cons (h : Leads fs follow links must here (name :: rest) p) : fs.IsOpen here := by
  cases h <;> assumption

/-- A way with no names before it is cut where it starts. -/
theorem Leads.split_nil (h : Leads fs follow links must here names p) (hz : [] ++ ys = names) (hys : ys ≠ []) :
    ∃ d k k', k + k' = links ∧ fs.IsOpen d ∧ (∀ m, Leads fs true k m here [] (.found d)) ∧
      Leads fs follow k' must d ys p := by
  obtain ⟨y, rest, rfl⟩ := List.exists_cons_of_ne_nil hys
  subst hz
  have ho := h.isOpen_of_cons
  exact ⟨here, 0, links, Nat.zero_add _, ho, fun _ => .arrive fun _ => ho.1, h⟩

/-- The first names of a way lead to an open directory, whatever they are followed by. -/
theorem Leads.split (h : Leads fs follow links must here (xs ++ ys) p) (hys : ys ≠ []) :
    ∃ d k k', k + k' = links ∧ fs.IsOpen d ∧ (∀ m, Leads fs true k m here xs (.found d)) ∧
      Leads fs follow k' must d ys p := by
  generalize hz : xs ++ ys = names at h
  -- the names before the cut grow when a link is followed, so the induction is on the way and not on them
  induction h generalizing xs with
  | arrive hd => simp [hys] at hz
  | @stay links must here rest p ho h ih =>
      cases xs with
      | nil => exact (Leads.stay ho h).split_nil hz hys
      | cons x xs =>
          simp only [List.cons_append, List.cons.injEq] at hz
          obtain ⟨rfl, hz⟩ := hz
          obtain ⟨d, k, k', hk, hd, hx, hy⟩ := ih hz
          exact ⟨d, k, k', hk, hd, fun m => .stay ho (hx m), hy⟩
  | @climb links must here rest p ho h ih =>
      cases xs with
      | nil => exact (Leads.climb ho h).split_nil hz hys
      | cons x xs =>
          simp only [List.cons_append, List.cons.injEq] at hz
          obtain ⟨rfl, hz⟩ := hz
          obtain ⟨d, k, k', hk, hd, hx, hy⟩ := ih hz
          exact ⟨d, k, k', hk, hd, fun m => .climb ho (hx m), hy⟩
  | @miss must here name ho hn hv =>
      cases xs with
      | nil => exact (Leads.miss ho hn hv).split_nil hz hys
      | cons x xs => simp [hys] at hz
  | @enter links must here name rest p node ho hn hm hl h ih =>
      cases xs with
      | nil => exact (Leads.enter ho hn hm hl h).split_nil hz hys
      | cons x xs =>
          simp only [List.cons_append, List.cons.injEq] at hz
          obtain ⟨rfl, hz⟩ := hz
          obtain ⟨d, k, k', hk, hd, hx, hy⟩ := ih hz
          exact ⟨d, k, k', hk, hd, fun m => .enter ho hn hm hl (hx m), hy⟩
  | @halt here name node hf ho hn hm hl =>
      cases xs with
      | nil => exact (Leads.halt hf ho hn hm hl).split_nil hz hys
      | cons x xs => simp [hys] at hz
  | @jump links must here name rest p node target ho hn hm hl hs ht h ih =>
      cases xs with
      | nil => exact (Leads.jump ho hn hm hl hs ht h).split_nil hz hys
      | cons x xs =>
          simp only [List.cons_append, List.cons.injEq] at hz
          obtain ⟨rfl, rfl⟩ := hz
          obtain ⟨d, k, k', hk, hd, hx, hy⟩ := ih (List.append_assoc _ _ _)
          have hne : (xs ++ ys).isEmpty = false := by simp [hys]
          rw [hne, Bool.false_and, Bool.or_false] at hy
          exact ⟨d, k + 1, k', by omega, hd, fun m => .jump ho hn hm hl (fun _ => Or.inl rfl) ht (hx _), hy⟩

/-! ### The last name -/

/-- A way that must lead to a directory does. -/
theorem Leads.isDirectoryAt_of_must (h : Leads fs follow links must here names (.found d)) (hm : must = true) :
    fs.isDirectoryAt d = true := by
  generalize hq : Place.found d = q at h
  induction h with
  | arrive hd =>
      cases hq
      exact hd hm
  | stay ho h ih => exact ih hm hq
  | climb ho h ih => exact ih hm hq
  | miss ho hn hv => cases hq
  | enter ho hn hnode hl h ih => exact ih hm hq
  | halt hf ho hn hnode hl => cases hm
  | jump ho hn hnode hl hs ht h ih => exact ih (by rw [hm, Bool.true_or]) hq

theorem Leads.of_vacant (h : Leads fs follow links must here names (.vacant d name)) :
    fs.IsOpen d ∧ IsEntryName name ∧ fs.node? (name :: d) = none := by
  generalize hq : Place.vacant d name = q at h
  induction h with
  | arrive hd => cases hq
  | stay ho h ih => exact ih hq
  | climb ho h ih => exact ih hq
  | miss ho hn hv =>
      cases hq
      exact ⟨ho, hn, hv⟩
  | enter ho hn hnode hl h ih => exact ih hq
  | halt hf ho hn hnode hl => cases hq
  | jump ho hn hnode hl hs ht h ih => exact ih hq

/-- A way from a place with a node leads to one. -/
theorem Leads.exists_node (h : Leads fs follow links must here names (.found d))
    (hh : ∃ n, fs.node? here = some n) : ∃ n, fs.node? d = some n := by
  generalize hq : Place.found d = q at h
  induction h with
  | arrive hd =>
      cases hq
      exact hh
  | stay ho h ih => exact ih hh hq
  | @climb links must here rest p ho h ih =>
      refine ih ?_ hq
      obtain ⟨n, hn, -⟩ := isDirectoryAt_iff.1 (isDirectoryAt_tail ho.1)
      exact ⟨n, hn⟩
  | miss ho hn hv => cases hq
  | enter ho hn hm hl h ih => exact ih ⟨_, hm⟩ hq
  | halt hf ho hn hm hl =>
      cases hq
      exact ⟨_, hm⟩
  | @jump links must here name rest p node target ho hn hm hl hs ht h ih =>
      refine ih ?_ hq
      unfold linkStart
      split_ifs
      · obtain ⟨n, hn, -⟩ := isDirectoryAt_iff.1 (isDirectoryAt_root fs)
        exact ⟨n, hn⟩
      · exact hh

/-- A way with a proper last name whose link is not followed leads to an entry, not to the root. -/
theorem Leads.exists_entry {x : Filename} (h : Leads fs false links must here names (.found d)) (hm : must = false)
    (hlast : names.getLast? = some x) (hdot : x ≠ dot) (hup : x ≠ dotDot) : ∃ name d', d = name :: d' := by
  generalize hq : Place.found d = q at h
  induction h with
  | arrive hd => cases hlast
  | @stay links must here rest p ho h ih =>
      cases rest with
      | nil => exact absurd (Option.some.inj hlast).symm hdot
      | cons y ys => exact ih hm (by rwa [List.getLast?_cons_cons] at hlast) hq
  | @climb links must here rest p ho h ih =>
      cases rest with
      | nil => exact absurd (Option.some.inj hlast).symm hup
      | cons y ys => exact ih hm (by rwa [List.getLast?_cons_cons] at hlast) hq
  | miss ho hn hv => cases hq
  | @enter links must here name rest p node ho hn hnode hl h ih =>
      cases rest with
      | nil =>
          cases h
          cases hq
          exact ⟨name, here, rfl⟩
      | cons y ys => exact ih hm (by rwa [List.getLast?_cons_cons] at hlast) hq
  | @halt here name node hf ho hn hnode hl =>
      cases hq
      exact ⟨name, here, rfl⟩
  | @jump links must here name rest p node target ho hn hnode hl hs ht h ih =>
      cases rest with
      | nil => rcases hs rfl with h | h <;> simp [hm] at h
      | cons y ys =>
          rw [List.getLast?_cons_cons] at hlast
          exact ih (by simp [hm]) (by rw [List.getLast?_append, hlast]; rfl) hq

/-- What a name means in an open directory, a link under it not followed. -/
def entry (fs : FileSystem) (here : Location) (name : Filename) : Place :=
  if (fs.node? (name :: here)).isSome then .found (name :: here) else .vacant here name

/-- One name, not followed, leads to the entry of that name. -/
theorem leads_single_iff (hd : name ≠ dot) (hu : name ≠ dotDot) :
    Leads fs false links false here [name] p ↔
      links = 0 ∧ fs.IsOpen here ∧ IsEntryName name ∧ p = fs.entry here name := by
  constructor
  · intro h
    cases h with
    | stay => exact absurd rfl hd
    | climb => exact absurd rfl hu
    | miss ho hn hv => exact ⟨rfl, ho, hn, by simp [entry, hv]⟩
    | enter ho hn hm hl h =>
        cases h
        exact ⟨rfl, ho, hn, by simp [entry, hm]⟩
    | halt hf ho hn hm hl => exact ⟨rfl, ho, hn, by simp [entry, hm]⟩
    | jump ho hn hm hl hs => rcases hs rfl with h | h <;> cases h
  · rintro ⟨rfl, ho, hn, rfl⟩
    unfold entry
    cases hm : fs.node? (name :: here) with
    | none => exact .miss ho hn hm
    | some node =>
        cases hl : node.isLink with
        | false => exact .enter ho hn hm hl (.arrive nofun)
        | true => exact .halt rfl ho hn hm hl

/-- A way with all links followed is one with the last link not followed, or that one leads to a link
whose target leads on. -/
theorem Leads.unfollow (h : Leads fs true links must here names p) :
    Leads fs false links must here names p ∨
      must = false ∧ ∃ k k' name d node target, k + k' + 1 = links ∧
        Leads fs false k false here names (.found (name :: d)) ∧ fs.node? (name :: d) = some node ∧
        node.content = .link target ∧
        Leads fs true k' (endsInSlash target) (linkStart d target) (steps target) p := by
  induction h with
  | arrive hd => exact Or.inl (.arrive hd)
  | stay ho h ih =>
      rcases ih with ih | ⟨hm, k, k', name, d, node, target, hk, hl, hnode, hc, ht⟩
      · exact Or.inl (.stay ho ih)
      · exact Or.inr ⟨hm, k, k', name, d, node, target, hk, .stay ho hl, hnode, hc, ht⟩
  | climb ho h ih =>
      rcases ih with ih | ⟨hm, k, k', name, d, node, target, hk, hl, hnode, hc, ht⟩
      · exact Or.inl (.climb ho ih)
      · exact Or.inr ⟨hm, k, k', name, d, node, target, hk, .climb ho hl, hnode, hc, ht⟩
  | miss ho hn hv => exact Or.inl (.miss ho hn hv)
  | enter ho hn hm hl h ih =>
      rcases ih with ih | ⟨hmust, k, k', name, d, node, target, hk, hleads, hnode, hc, ht⟩
      · exact Or.inl (.enter ho hn hm hl ih)
      · exact Or.inr ⟨hmust, k, k', name, d, node, target, hk, .enter ho hn hm hl hleads, hnode, hc, ht⟩
  | halt hf => cases hf
  | @jump links must here name rest p node target ho hn hm hl hs ht h ih =>
      by_cases hstop : rest = [] ∧ must = false
      · obtain ⟨rfl, rfl⟩ := hstop
        refine Or.inr ⟨rfl, 0, links, name, here, node, target, by omega, ?_, hm, hl, ?_⟩
        · exact .halt rfl ho hn hm (isLink_iff.2 ⟨_, hl⟩)
        · simpa using h
      · have hs' : rest = [] → false = true ∨ must = true := fun hr =>
          Or.inr (by simpa [hr] using hstop)
        rcases ih with ih | ⟨hmust, k, k', name', d, node', target', hk, hleads, hnode, hc, ht'⟩
        · exact Or.inl (.jump ho hn hm hl hs' ht ih)
        · obtain ⟨rfl, hrest⟩ : must = false ∧ (rest.isEmpty && endsInSlash target) = false := by
            simpa using hmust
          refine Or.inr ⟨rfl, k + 1, k', name', d, node', target', by omega, ?_, hnode, hc, ht'⟩
          refine .jump ho hn hm hl hs' ht ?_
          rw [Bool.false_or, hrest]
          exact hleads

/-- A way that leads to no link leads there too if all links are followed. -/
theorem Leads.followed (h : Leads fs false links must here names (.found d)) (hn : fs.node? d = some node)
    (hl : node.isLink = false) : Leads fs true links must here names (.found d) := by
  generalize hq : Place.found d = q at h
  induction h with
  | arrive hd => exact .arrive hd
  | stay ho h ih => exact .stay ho (ih hq)
  | climb ho h ih => exact .climb ho (ih hq)
  | miss ho hn hv => exact .miss ho hn hv
  | enter ho hn hnode hl h ih => exact .enter ho hn hnode hl (ih hq)
  | halt hf ho hn' hnode hlink =>
      cases hq
      rw [hn, Option.some.injEq] at hnode
      rw [← hnode, hl] at hlink
      cases hlink
  | jump ho hn' hnode hlink hs ht h ih => exact .jump ho hn' hnode hlink (fun _ => Or.inl rfl) ht (ih hq)

/-- Following the link that a way ends at joins its way and that of the target. -/
theorem Leads.refollow (h : Leads fs false links must here names (.found (name :: d))) (hm : must = false)
    (hh : ∀ n, fs.node? here = some n → n.isLink = false) (hn : fs.node? (name :: d) = some node)
    (hl : node.content = .link target) (ht : target ≠ [])
    (hway : Leads fs true links' (endsInSlash target) (linkStart d target) (steps target) p) :
    ∃ k, Leads fs true k must here names p := by
  generalize hq : Place.found (name :: d) = q at h
  induction h with
  | arrive hd =>
      cases hq
      have := hh _ hn
      rw [isLink_iff.2 ⟨_, hl⟩] at this
      cases this
  | stay ho h ih =>
      obtain ⟨k, hk⟩ := ih hm hh hq
      exact ⟨k, .stay ho hk⟩
  | @climb _ _ here _ _ ho h ih =>
      obtain ⟨k, hk⟩ := ih hm (fun _ => isLink_eq_false_of_isDirectoryAt (isDirectoryAt_tail ho.1)) hq
      exact ⟨k, .climb ho hk⟩
  | miss ho hname hv => cases hq
  | enter ho hname hnode hlink h ih =>
      obtain ⟨k, hk⟩ := ih hm (fun n hn => by rw [hnode, Option.some.injEq] at hn; rw [← hn, hlink]) hq
      exact ⟨k, .enter ho hname hnode hlink hk⟩
  | halt hf ho hname hnode hlink =>
      cases hq
      refine ⟨links' + 1, .jump ho hname hnode (by rw [hnode, Option.some.injEq] at hn; rw [hn, hl]) (fun _ => Or.inl rfl) ht ?_⟩
      rw [List.append_nil, Bool.false_or, List.isEmpty_nil, Bool.true_and]
      exact hway
  | @jump _ _ here _ rest _ _ target' ho hname hnode hlink hs ht' h ih =>
      have hm' : (rest.isEmpty && endsInSlash target') = false := by
        cases rest with
        | nil => rcases hs rfl with h | h <;> simp [hm] at h
        | cons y ys => rfl
      have hstart : ∀ n, fs.node? (linkStart here target') = some n → n.isLink = false := by
        unfold linkStart
        split_ifs
        · exact fun _ => isLink_eq_false_of_isDirectoryAt (isDirectoryAt_root _)
        · exact fun _ => isLink_eq_false_of_isDirectoryAt ho.1
      obtain ⟨k, hk⟩ := ih (by rw [hm, hm', Bool.false_or]) hstart hq
      exact ⟨k + 1, .jump ho hname hnode hlink (fun _ => Or.inl rfl) ht' hk⟩

end RequirePath.FileSystem
