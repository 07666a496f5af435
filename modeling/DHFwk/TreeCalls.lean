import Mathlib.Data.List.Basic

/-!
# Calls that go through a tree

A call on a tree reaches its nodes one after the other and changes each by `f`, those below a node
before the node (`upward`) or after it (`downward`). In between the tree is partly changed. A call
is given as the trees that there are after each change, and the last one.

A tree is `Safe` if a relation holds along all its edges. `upward_safe_iff` and
`downward_safe_iff` say by what is true of each edge alone when a call keeps a tree safe at every
moment : an upward call meets the old node above with the new one below and then both new, a
downward call the new node above with the old one below and then both new.
-/

namespace TreeCalls

variable {N : Type*}

inductive NodeTree (N : Type*)
  | node (value : N) (next : List (NodeTree N))

namespace NodeTree

def value : NodeTree N → N
  | node value _ => value

def next : NodeTree N → List (NodeTree N)
  | node _ next => next

mutual

/-- The nodes of a tree that are joined, the upper one first. -/
def edges : NodeTree N → List (N × N)
  | node value next => edgesBelow value next

def edgesBelow : N → List (NodeTree N) → List (N × N)
  | _, [] => []
  | value, t :: ts => (value, t.value) :: (edges t ++ edgesBelow value ts)

end

mutual

def nodes : NodeTree N → List N
  | node value next => value :: nodesBelow next

def nodesBelow : List (NodeTree N) → List N
  | [] => []
  | t :: ts => nodes t ++ nodesBelow ts

end

/-! ## Calls -/

mutual

/-- What every call leaves. -/
def mapNodes (f : N → N) : NodeTree N → NodeTree N
  | node value next => node (f value) (mapBelow f next)

def mapBelow (f : N → N) : List (NodeTree N) → List (NodeTree N)
  | [] => []
  | t :: ts => mapNodes f t :: mapBelow f ts

end

mutual

/-- The nodes below first. -/
def upward (f : N → N) : NodeTree N → List (NodeTree N) × NodeTree N
  | node value next =>
    let (moments, next) := upwardBelow f next
    (moments.map (node value) ++ [node (f value) next], node (f value) next)

def upwardBelow (f : N → N) : List (NodeTree N) → List (List (NodeTree N)) × List (NodeTree N)
  | [] => ([], [])
  | t :: ts =>
    let (moments, t') := upward f t
    let (moments', ts') := upwardBelow f ts
    (moments.map (· :: ts) ++ moments'.map (t' :: ·), t' :: ts')

end

mutual

/-- The nodes below last. -/
def downward (f : N → N) : NodeTree N → List (NodeTree N) × NodeTree N
  | node value next =>
    let (moments, next') := downwardBelow f next
    (node (f value) next :: moments.map (node (f value)), node (f value) next')

def downwardBelow (f : N → N) : List (NodeTree N) → List (List (NodeTree N)) × List (NodeTree N)
  | [] => ([], [])
  | t :: ts =>
    let (moments, t') := downward f t
    let (moments', ts') := downwardBelow f ts
    (moments.map (· :: ts) ++ moments'.map (t' :: ·), t' :: ts')

end

/-! ## What a call leaves -/

section Map

variable {f : N → N}

theorem value_mapNodes : ∀ t : NodeTree N, (t.mapNodes f).value = f t.value
  | node _ _ => rfl

mutual

theorem edges_mapNodes : ∀ t : NodeTree N,
    (t.mapNodes f).edges = t.edges.map fun e => (f e.1, f e.2)
  | node value next => edgesBelow_mapBelow value next

theorem edgesBelow_mapBelow (value : N) : ∀ ts : List (NodeTree N),
    edgesBelow (f value) (mapBelow f ts) = (edgesBelow value ts).map fun e => (f e.1, f e.2)
  | [] => rfl
  | t :: ts => by
    rw [mapBelow, edgesBelow, edges_mapNodes t, edgesBelow_mapBelow value ts, value_mapNodes,
      edgesBelow, List.map_cons, List.map_append]

end

mutual

theorem nodes_mapNodes : ∀ t : NodeTree N, (t.mapNodes f).nodes = t.nodes.map f
  | node value next => by rw [mapNodes, nodes, nodes, nodesBelow_mapBelow next, List.map_cons]

theorem nodesBelow_mapBelow : ∀ ts : List (NodeTree N),
    nodesBelow (mapBelow f ts) = (nodesBelow ts).map f
  | [] => rfl
  | t :: ts => by
    rw [mapBelow, nodesBelow, nodes_mapNodes t, nodesBelow_mapBelow ts, nodesBelow,
      List.map_append]

end

mutual

theorem upward_snd : ∀ t : NodeTree N, (t.upward f).2 = t.mapNodes f
  | node value next => congrArg (node (f value)) (upwardBelow_snd next)

theorem upwardBelow_snd : ∀ ts : List (NodeTree N), (upwardBelow f ts).2 = mapBelow f ts
  | [] => rfl
  | t :: ts => congrArg₂ List.cons (upward_snd t) (upwardBelow_snd ts)

end

mutual

theorem downward_snd : ∀ t : NodeTree N, (t.downward f).2 = t.mapNodes f
  | node value next => congrArg (node (f value)) (downwardBelow_snd next)

theorem downwardBelow_snd : ∀ ts : List (NodeTree N), (downwardBelow f ts).2 = mapBelow f ts
  | [] => rfl
  | t :: ts => congrArg₂ List.cons (downward_snd t) (downwardBelow_snd ts)

end

end Map

/-! ## Safe trees -/

section Safe

variable (R : N → N → Prop)

def Safe (t : NodeTree N) : Prop :=
  ∀ e ∈ t.edges, R e.1 e.2

/-- Trees that hang on one node. -/
def SafeBelow (value : N) (ts : List (NodeTree N)) : Prop :=
  ∀ t ∈ ts, R value t.value ∧ t.Safe R

variable {R} {f : N → N} {value : N} {t : NodeTree N} {ts : List (NodeTree N)}

theorem forall_mem_edgesBelow {P : N × N → Prop} : ∀ {ts : List (NodeTree N)},
    (∀ e ∈ edgesBelow value ts, P e) ↔ ∀ t ∈ ts, P (value, t.value) ∧ ∀ e ∈ t.edges, P e
  | [] => by simp [edgesBelow]
  | t :: ts => by
    have hrest : (∀ e ∈ edgesBelow value ts, P e) ↔
        ∀ t ∈ ts, P (value, t.value) ∧ ∀ e ∈ t.edges, P e := forall_mem_edgesBelow
    rw [edgesBelow, List.forall_mem_cons, List.forall_mem_append, hrest, List.forall_mem_cons,
      and_assoc]

theorem safe_node_iff : (node value ts).Safe R ↔ SafeBelow R value ts :=
  forall_mem_edgesBelow

theorem safeBelow_cons_iff : SafeBelow R value (t :: ts) ↔
    (R value t.value ∧ t.Safe R) ∧ SafeBelow R value ts :=
  List.forall_mem_cons

/-- Where the trees of a list are changed in turn, something is true of all of them at every
moment exactly if it is of each while it is changed. The last moment of a tree is what it is
then. -/
theorem forall_inTurn_iff {P : NodeTree N → Prop} {moments : List (NodeTree N)} {t' : NodeTree N}
    {moments' : List (List (NodeTree N))} (hlast : t' ∈ moments) (hts : ∀ t ∈ ts, P t) :
    (∀ l ∈ moments.map (· :: ts) ++ moments'.map (t' :: ·), ∀ t ∈ l, P t) ↔
      (∀ m ∈ moments, P m) ∧ ∀ l ∈ moments', ∀ t ∈ l, P t := by
  rw [List.forall_mem_append, List.forall_mem_map, List.forall_mem_map]
  simp only [List.forall_mem_cons]
  constructor
  · rintro ⟨hfirst, hrest⟩
    exact ⟨fun m hm => (hfirst m hm).1, fun l hl => (hrest l hl).2⟩
  · rintro ⟨hfirst, hrest⟩
    exact ⟨fun m hm => ⟨hfirst m hm, hts⟩, fun l hl => ⟨hfirst t' hlast, hrest l hl⟩⟩

/-- What is there at last is there at a moment, or nothing was changed. -/
theorem mem_inTurn {moments : List (NodeTree N)} {t' : NodeTree N}
    {moments' : List (List (NodeTree N))} {ts' : List (NodeTree N)} (hlast : t' ∈ moments) (hts : ts' = ts ∨ ts' ∈ moments') :
    t' :: ts' ∈ moments.map (· :: ts) ++ moments'.map (t' :: ·) := by
  rw [List.mem_append]
  obtain rfl | hts := hts
  · exact .inl (List.mem_map_of_mem hlast)
  · exact .inr (List.mem_map_of_mem hts)

theorem safeBelow_inTurn_iff {moments : List (NodeTree N)} {t' : NodeTree N}
    {moments' : List (List (NodeTree N))} (hlast : t' ∈ moments) (hts : SafeBelow R value ts) :
    (∀ l ∈ moments.map (· :: ts) ++ moments'.map (t' :: ·), SafeBelow R value l) ↔
      ((∀ m ∈ moments, R value m.value) ∧ ∀ m ∈ moments, m.Safe R) ∧
        ∀ l ∈ moments', SafeBelow R value l :=
  (forall_inTurn_iff hlast hts).trans (and_congr_left fun _ => forall₂_and)

theorem forall_mem_nodesBelow {P : N → Prop} : ∀ {ts : List (NodeTree N)},
    (∀ n ∈ nodesBelow ts, P n) ↔ ∀ t ∈ ts, ∀ n ∈ t.nodes, P n
  | [] => by simp [nodesBelow]
  | t :: ts => by
    rw [nodesBelow, List.forall_mem_append, forall_mem_nodesBelow, List.forall_mem_cons]

mutual

theorem fst_mem_nodes : ∀ {t : NodeTree N} {e : N × N}, e ∈ t.edges → e.1 ∈ t.nodes
  | node value ts, e, he => by
    rw [nodes, List.mem_cons]
    exact fst_mem_nodesBelow he

theorem fst_mem_nodesBelow : ∀ {value : N} {ts : List (NodeTree N)} {e : N × N},
    e ∈ edgesBelow value ts → e.1 = value ∨ e.1 ∈ nodesBelow ts
  | value, t :: ts, e, he => by
    rw [edgesBelow, List.mem_cons, List.mem_append] at he
    rw [nodesBelow, List.mem_append]
    obtain rfl | he | he := he
    · exact .inl rfl
    · exact .inr (.inl (fst_mem_nodes he))
    · exact (fst_mem_nodesBelow he).imp_right .inr

end

/-- Where no node asks anything of those below. -/
theorem safe_of_nodes (h : ∀ n ∈ t.nodes, ∀ n', R n n') : t.Safe R :=
  fun e he => h e.1 (fst_mem_nodes he) e.2

theorem safeBelow_mapBelow_iff : SafeBelow R (f value) (mapBelow f ts) ↔
    ∀ t ∈ ts, R (f value) (f t.value) ∧ ∀ e ∈ t.edges, R (f e.1) (f e.2) := by
  rw [← safe_node_iff, Safe, edges, edgesBelow_mapBelow, List.forall_mem_map]
  exact forall_mem_edgesBelow

/-! ## Upward calls -/

theorem mem_upward : ∀ t : NodeTree N, t.mapNodes f ∈ (t.upward f).1
  | node value next => by
    rw [← upward_snd]
    simp [upward]

theorem upward_last (t : NodeTree N) : (t.upward f).2 ∈ (t.upward f).1 := by
  rw [upward_snd]
  exact mem_upward t

/-- The node itself is changed last. -/
theorem upward_moment : ∀ {t m : NodeTree N}, m ∈ (t.upward f).1 →
    m.value = t.value ∨ m = t.mapNodes f
  | node value next, m, hm => by
    obtain hm | hm := List.mem_append.1 hm
    · obtain ⟨ts, -, rfl⟩ := List.mem_map.1 hm
      exact .inl rfl
    · rw [← upward_snd]
      exact .inr (List.mem_singleton.1 hm)

theorem forall_upward_value_iff (h : R value t.value) :
    (∀ m ∈ (t.upward f).1, R value m.value) ↔ R value (f t.value) := by
  constructor
  · intro hall
    have hlast := hall _ (mem_upward t)
    rwa [value_mapNodes] at hlast
  · intro hlast m hm
    obtain heq | rfl := upward_moment hm
    · rwa [heq]
    · rwa [value_mapNodes]

mutual

theorem upward_safe_iff : ∀ {t : NodeTree N}, t.Safe R →
    ((∀ m ∈ (t.upward f).1, m.Safe R) ↔ ∀ e ∈ t.edges, R e.1 (f e.2) ∧ R (f e.1) (f e.2))
  | node value ts, h => by
    have hbelow : (∀ l ∈ (upwardBelow f ts).1, SafeBelow R value l) ↔
        ∀ t ∈ ts, R value (f t.value) ∧ ∀ e ∈ t.edges, R e.1 (f e.2) ∧ R (f e.1) (f e.2) :=
      upwardBelow_safe_iff (safe_node_iff.1 h)
    rw [upward]
    dsimp only
    rw [List.forall_mem_append, List.forall_mem_map, List.forall_mem_singleton, upwardBelow_snd]
    simp only [safe_node_iff]
    rw [hbelow, safeBelow_mapBelow_iff, edges, forall_mem_edgesBelow]
    constructor
    · rintro ⟨hold, hnew⟩ t ht
      exact ⟨⟨(hold t ht).1, (hnew t ht).1⟩, (hold t ht).2⟩
    · intro hall
      exact ⟨fun t ht => ⟨(hall t ht).1.1, (hall t ht).2⟩,
        fun t ht => ⟨(hall t ht).1.2, fun e he => ((hall t ht).2 e he).2⟩⟩

theorem upwardBelow_safe_iff : ∀ {value : N} {ts : List (NodeTree N)}, SafeBelow R value ts →
    ((∀ l ∈ (upwardBelow f ts).1, SafeBelow R value l) ↔
      ∀ t ∈ ts, R value (f t.value) ∧ ∀ e ∈ t.edges, R e.1 (f e.2) ∧ R (f e.1) (f e.2))
  | _, [], _ => by simp [upwardBelow]
  | value, t :: ts, h => by
    obtain ⟨⟨hvalue, ht⟩, hts⟩ := safeBelow_cons_iff.1 h
    rw [upwardBelow]
    dsimp only
    rw [safeBelow_inTurn_iff (upward_last t) hts, upwardBelow_safe_iff hts, List.forall_mem_cons,
      forall_upward_value_iff hvalue, upward_safe_iff ht]

end

/-! ## Downward calls -/

mutual

theorem downward_last : ∀ t : NodeTree N, (t.downward f).2 ∈ (t.downward f).1
  | node value next => by
    obtain hnext | hlast := downwardBelow_last next
    · exact List.mem_cons.2 (.inl (congrArg (node (f value)) hnext))
    · exact List.mem_cons_of_mem _ (List.mem_map_of_mem hlast)

theorem downwardBelow_last : ∀ ts : List (NodeTree N),
    (downwardBelow f ts).2 = ts ∨ (downwardBelow f ts).2 ∈ (downwardBelow f ts).1
  | [] => .inl rfl
  | t :: ts => .inr (mem_inTurn (downward_last t) (downwardBelow_last ts))

end

/-- The node itself is changed first. -/
theorem downward_moment : ∀ {t m : NodeTree N}, m ∈ (t.downward f).1 → m.value = f t.value
  | node value next, m, hm => by
    obtain rfl | hm := List.mem_cons.1 hm
    · rfl
    · obtain ⟨ts, -, rfl⟩ := List.mem_map.1 hm
      rfl

theorem forall_downward_value_iff :
    (∀ m ∈ (t.downward f).1, R value m.value) ↔ R value (f t.value) := by
  constructor
  · intro hall
    have hlast := hall _ (downward_last t)
    rwa [downward_moment (downward_last t)] at hlast
  · intro hlast m hm
    rwa [downward_moment hm]

mutual

theorem downward_safe_iff : ∀ {t : NodeTree N}, t.Safe R →
    ((∀ m ∈ (t.downward f).1, m.Safe R) ↔ ∀ e ∈ t.edges, R (f e.1) e.2 ∧ R (f e.1) (f e.2))
  | node value ts, h => by
    rw [downward]
    dsimp only
    rw [List.forall_mem_cons, List.forall_mem_map, edges, forall_mem_edgesBelow]
    simp only [safe_node_iff]
    have hts : ∀ t ∈ ts, t.Safe R := fun t ht => (safe_node_iff.1 h t ht).2
    constructor
    · rintro ⟨hown, hbelow⟩ t ht
      have hall := (downwardBelow_safe_iff hown).1 hbelow t ht
      exact ⟨⟨(hown t ht).1, hall.1⟩, hall.2⟩
    · intro hall
      have hown : SafeBelow R (f value) ts := fun t ht => ⟨(hall t ht).1.1, hts t ht⟩
      exact ⟨hown, (downwardBelow_safe_iff hown).2 fun t ht =>
        ⟨(hall t ht).1.2, (hall t ht).2⟩⟩

theorem downwardBelow_safe_iff : ∀ {value : N} {ts : List (NodeTree N)}, SafeBelow R value ts →
    ((∀ l ∈ (downwardBelow f ts).1, SafeBelow R value l) ↔
      ∀ t ∈ ts, R value (f t.value) ∧ ∀ e ∈ t.edges, R (f e.1) e.2 ∧ R (f e.1) (f e.2))
  | _, [], _ => by simp [downwardBelow]
  | value, t :: ts, h => by
    obtain ⟨⟨-, ht⟩, hts⟩ := safeBelow_cons_iff.1 h
    rw [downwardBelow]
    dsimp only
    rw [safeBelow_inTurn_iff (downward_last t) hts, downwardBelow_safe_iff hts,
      List.forall_mem_cons, forall_downward_value_iff, downward_safe_iff ht]

end

end Safe

end NodeTree

end TreeCalls
