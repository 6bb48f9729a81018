/-
The search for a cycle is exact.  While it goes on, the gray nodes are those of the path,
the path is a walk, and no edge leads from a black node to one that is not black; so what
is found is a cycle, and where nothing is found there is none.
-/
import Mathlib
import TaskScript.Graph.Cycle
import TaskScript.Proofs.Graph.Walk

namespace TaskScript.Graph

open Relation

variable {n : Nat}

/-- What the nodes of a path still have to look at.  A successor of a node that it need
not look at any more is black or lies on the path inside of it. -/
def Frames (graph : Graph n) (color : Fin n → Color) :
    List (Fin n) → List (Fin n) → List (List (Fin n)) → Prop
  | _, [], [] => True
  | inside, node :: path, unread :: stack =>
      (∀ next ∈ unread, graph.HasEdge node next) ∧
        (∀ next, graph.HasEdge node next →
          next ∈ unread ∨ next ∈ inside ∨ color next = .black) ∧
        Frames graph color (node :: inside) path stack
  | _, _, _ => False

/-- What holds of the search at every turn. -/
structure Search.Valid (graph : Graph n) (search : Search n) : Prop where
  gray_iff : ∀ node, search.color node = .gray ↔ node ∈ search.path
  nodup : search.path.Nodup
  walk : search.path.IsChain fun inner outer => graph.HasEdge outer inner
  frames : graph.Frames search.color [] search.path search.stack
  black_of_edge : ∀ source target, search.color source = .black →
    graph.HasEdge source target → search.color target = .black
  no_return : ∀ node, search.color node = .black → ¬ TransGen graph.HasEdge node node

/-- What a verdict stands for, if the search began with `color`. -/
def Verdict.Sound (graph : Graph n) (color : Fin n → Color) : Verdict n → Prop
  | .exhausted final =>
      { color := final, path := [], stack := [] : Search n }.Valid graph ∧
        ∀ node, color node ≠ .white → final node ≠ .white
  | .cycle nodes => graph.IsCycle nodes
  | .astray _ => False

theorem paint_ne_white {color : Fin n → Color} {node other : Fin n} {shade : Color}
    (hshade : shade ≠ .white) (hother : color other ≠ .white) :
    paint color node shade other ≠ .white := by
  by_cases h : other = node
  · simpa [paint, h] using hshade
  · simpa [paint, h] using hother

theorem Frames.mono {graph : Graph n} {color later : Fin n → Color}
    {inside inside' path : List (Fin n)} {stack : List (List (Fin n))}
    (hframes : graph.Frames color inside path stack)
    (hinside : ∀ node ∈ inside, node ∈ inside' ∨ later node = .black)
    (hblack : ∀ node, color node = .black → later node = .black) :
    graph.Frames later inside' path stack := by
  induction path generalizing inside inside' stack with
  | nil =>
      cases stack with
      | nil => trivial
      | cons unread stack => exact hframes
  | cons node path ih =>
      cases stack with
      | nil => exact hframes
      | cons unread stack =>
          obtain ⟨hunread, hcovered, hrest⟩ := hframes
          refine ⟨hunread, ?_, ih hrest ?_⟩
          · intro next hedge
            rcases hcovered next hedge with h | h | h
            · exact Or.inl h
            · exact Or.inr (hinside next h)
            · exact Or.inr (Or.inr (hblack next h))
          · intro other hother
            rcases List.mem_cons.mp hother with rfl | hother
            · exact Or.inl List.mem_cons_self
            · exact (hinside other hother).imp_left (List.mem_cons_of_mem node)

theorem Frames.path_eq_nil {graph : Graph n} {color : Fin n → Color}
    {inside path : List (Fin n)} (hframes : graph.Frames color inside path []) :
    path = [] := by
  cases path with
  | nil => rfl
  | cons node path => exact hframes.elim

/-- Only black nodes are reached from a black node. -/
theorem Search.Valid.black_of_reaches {graph : Graph n} {search : Search n}
    (hvalid : search.Valid graph) {source target : Fin n}
    (hsource : search.color source = .black)
    (hreach : ReflTransGen graph.HasEdge source target) : search.color target = .black := by
  induction hreach with
  | refl => exact hsource
  | tail _ hedge ih => exact hvalid.black_of_edge _ _ ih hedge

/-- Going into a white node, once the innermost node of the path no longer waits for it. -/
theorem Search.Valid.enter {graph : Graph n} {search : Search n} (hvalid : search.Valid graph)
    {node : Fin n} {stack : List (List (Fin n))} (hwhite : search.color node = .white)
    (hedge : ∀ outer ∈ search.path.head?, graph.HasEdge outer node)
    (hframes : graph.Frames search.color [node] search.path stack) :
    ({ search with stack }.enter graph node).Valid graph := by
  have hblack : ∀ other, paint search.color node .gray other = .black ↔
      search.color other = .black := by
    intro other
    by_cases h : other = node <;> simp [paint, h, hwhite]
  refine ⟨?_, ?_, ?_, ?_, ?_, ?_⟩
  · intro other
    by_cases h : other = node <;> simp [Search.enter, paint, h, hvalid.gray_iff]
  · have hnew : node ∉ search.path := by
      rw [← hvalid.gray_iff, hwhite]
      simp
    exact List.nodup_cons.mpr ⟨hnew, hvalid.nodup⟩
  · exact List.isChain_cons.mpr ⟨hedge, hvalid.walk⟩
  · refine ⟨fun next h => mem_successors.mp h, fun next h => Or.inl (mem_successors.mpr h), ?_⟩
    exact hframes.mono (fun other h => Or.inl h) fun other h => (hblack other).mpr h
  · intro source target hsource hnext
    exact (hblack target).mpr (hvalid.black_of_edge _ _ ((hblack source).mp hsource) hnext)
  · intro other hother
    exact hvalid.no_return other ((hblack other).mp hother)

/-- Going back from a node whose successors are all black. -/
theorem Search.Valid.leave {graph : Graph n} {color : Fin n → Color} {node : Fin n}
    {path : List (Fin n)} {stack : List (List (Fin n))}
    (hvalid : (Search.mk color (node :: path) ([] :: stack)).Valid graph) :
    (Search.mk (paint color node .black) path stack).Valid graph := by
  obtain ⟨hnew, hnodup⟩ := List.nodup_cons.mp hvalid.nodup
  obtain ⟨_, hcovered, hrest⟩ := hvalid.frames
  have hgray : color node = .gray := (hvalid.gray_iff node).mpr List.mem_cons_self
  have hblack : ∀ other, paint color node .black other = .black ↔
      other = node ∨ color other = .black := by
    intro other
    by_cases h : other = node <;> simp [paint, h]
  have hnext : ∀ next, graph.HasEdge node next → color next = .black := by
    intro next hedge
    simpa using hcovered next hedge
  refine ⟨?_, hnodup, (List.isChain_cons.mp hvalid.walk).2, ?_, ?_, ?_⟩
  · intro other
    by_cases h : other = node
    · simp [paint, h, hnew]
    · simpa [paint, h] using hvalid.gray_iff other
  · apply hrest.mono
    · intro other hother
      exact Or.inr ((hblack other).mpr (Or.inl (List.mem_singleton.mp hother)))
    · exact fun other h => (hblack other).mpr (Or.inr h)
  · intro source target hsource hedge
    rcases (hblack source).mp hsource with rfl | hsource
    · exact (hblack target).mpr (Or.inr (hnext target hedge))
    · exact (hblack target).mpr (Or.inr (hvalid.black_of_edge _ _ hsource hedge))
  · intro other hother hreturn
    rcases (hblack other).mp hother with rfl | hother
    · -- A walk from the node goes on to a black node, and the node itself was gray.
      obtain ⟨next, hedge, hreach⟩ := TransGen.head'_iff.mp hreturn
      have hback : color other = .black := hvalid.black_of_reaches (hnext next hedge) hreach
      rw [hgray] at hback
      cases hback
    · exact hvalid.no_return other hother hreturn

/-- A gray node is on the path, and from there the path leads back to it. -/
theorem exists_closeCycle? {graph : Graph n} {node next : Fin n} {path : List (Fin n)}
    (hnext : next ∈ node :: path) (hnodup : (node :: path).Nodup)
    (hwalk : (node :: path).IsChain fun inner outer => graph.HasEdge outer inner)
    (hedge : graph.HasEdge node next) :
    ∃ nodes, closeCycle? (node :: path) next = some nodes ∧ graph.IsCycle nodes := by
  obtain ⟨before, after, hsplit, hbefore⟩ :=
    List.eq_append_cons_of_mem (List.mem_reverse.mpr hnext)
  have hposition : (node :: path).reverse.findIdx? (· = next) = some before.length := by
    rw [hsplit, List.findIdx?_append, List.findIdx?_eq_none_iff.mpr (by
      intro other hother
      simpa using fun h : other = next => hbefore (h ▸ hother)), List.findIdx?_cons]
    simp
  have hclosed : closeCycle? (node :: path) next = some (next :: after ++ [next]) := by
    rw [closeCycle?, hposition, hsplit]
    simp
  have hforward : (next :: after).IsChain graph.HasEdge := by
    have hreverse := List.isChain_reverse.mpr hwalk
    rw [hsplit] at hreverse
    exact (List.isChain_append.mp hreverse).2.1
  have hlast : (next :: after).getLast? = some node := by
    have hreverse : (before ++ next :: after).getLast? = some node := by
      rw [← hsplit]
      simp
    simpa [List.getLast?_append] using hreverse
  refine ⟨_, hclosed, ?_, ?_, ?_, ?_⟩
  · simp
  · rw [List.getLast?_concat]
    rfl
  · have hreverse := List.nodup_reverse.mpr hnodup
    rw [hsplit] at hreverse
    rw [List.dropLast_concat]
    exact (List.nodup_append.mp hreverse).2.1
  · refine List.isChain_append.mpr ⟨hforward, List.isChain_singleton next, ?_⟩
    simp [hlast, hedge]

/-- One turn keeps the search valid or ends it with a sound verdict. -/
theorem Search.Valid.turn {graph : Graph n} {search : Search n} (hvalid : search.Valid graph) :
    match search.turn graph with
    | .inl verdict => verdict.Sound graph search.color
    | .inr next => next.Valid graph ∧
        ∀ node, search.color node ≠ .white → next.color node ≠ .white := by
  obtain ⟨color, path, stack⟩ := search
  have hframes := hvalid.frames
  match path, stack with
  | path, [] =>
      obtain rfl := hframes.path_eq_nil
      exact ⟨⟨hvalid.gray_iff, hvalid.nodup, hvalid.walk, trivial, hvalid.black_of_edge,
        hvalid.no_return⟩, fun _ h => h⟩
  | [], _ :: _ => exact hframes.elim
  | node :: path, [] :: stack =>
      exact ⟨hvalid.leave, fun _ => paint_ne_white (by simp)⟩
  | node :: path, (next :: others) :: stack =>
      obtain ⟨hunread, hcovered, hrest⟩ := hframes
      have hedge : graph.HasEdge node next := hunread next List.mem_cons_self
      have hothers : ∀ other ∈ others, graph.HasEdge node other :=
        fun other h => hunread other (List.mem_cons_of_mem next h)
      cases hcolor : color next with
      | white =>
          simp only [Search.turn, hcolor]
          refine ⟨hvalid.enter hcolor (by simpa using hedge) ⟨hothers, ?_, ?_⟩,
            fun _ => paint_ne_white (by simp)⟩
          · intro other hother
            rcases hcovered other hother with h | h | h
            · rcases List.mem_cons.mp h with rfl | h
              · exact Or.inr (Or.inl List.mem_cons_self)
              · exact Or.inl h
            · simp at h
            · exact Or.inr (Or.inr h)
          · exact hrest.mono (fun other h => Or.inl (by simp [List.mem_singleton.mp h]))
              fun _ h => h
      | gray =>
          have hnext : next ∈ node :: path := (hvalid.gray_iff next).mp hcolor
          obtain ⟨nodes, hnodes, hcycle⟩ :=
            exists_closeCycle? hnext hvalid.nodup hvalid.walk hedge
          simp only [Search.turn, hcolor, hnodes]
          exact hcycle
      | black =>
          simp only [Search.turn, hcolor]
          refine ⟨⟨hvalid.gray_iff, hvalid.nodup, hvalid.walk, ⟨hothers, ?_, hrest⟩,
            hvalid.black_of_edge, hvalid.no_return⟩, fun _ h => h⟩
          intro other hother
          rcases hcovered other hother with h | h
          · rcases List.mem_cons.mp h with rfl | h
            · exact Or.inr (Or.inr hcolor)
            · exact Or.inl h
          · exact Or.inr h

theorem Verdict.Sound.of_not_white {graph : Graph n} {color later : Fin n → Color}
    {verdict : Verdict n} (hsound : verdict.Sound graph later)
    (hlater : ∀ node, color node ≠ .white → later node ≠ .white) :
    verdict.Sound graph color := by
  cases verdict with
  | exhausted final => exact ⟨hsound.1, fun node h => hsound.2 node (hlater node h)⟩
  | cycle nodes => exact hsound
  | astray node => exact hsound

theorem Search.Valid.run {graph : Graph n} {search : Search n} (hvalid : search.Valid graph) :
    (search.run graph).Sound graph search.color := by
  fun_induction Search.run graph search with
  | case1 search verdict hturn =>
      have hsound := hvalid.turn
      rwa [hturn] at hsound
  | case2 search next hturn ih =>
      have hnext := hvalid.turn
      rw [hturn] at hnext
      exact (ih hnext.1).of_not_white hnext.2

/-- The searches from the nodes of a list end soundly, and leave none of them white. -/
theorem searchFrom_sound {graph : Graph n} {color : Fin n → Color} {nodes : List (Fin n)}
    (hvalid : (Search.mk color [] []).Valid graph) :
    (graph.searchFrom color nodes).Sound graph color ∧
      ∀ final, graph.searchFrom color nodes = .exhausted final →
        ∀ node ∈ nodes, final node ≠ .white := by
  induction nodes generalizing color with
  | nil => exact ⟨⟨hvalid, fun _ h => h⟩, by simp⟩
  | cons node rest ih =>
      by_cases hwhite : color node = .white
      · have hframes : graph.Frames color [node] [] [] := trivial
        have hrun := (hvalid.enter hwhite (by simp) hframes).run
        have hentered : ∀ other, color other ≠ .white →
            paint color node .gray other ≠ .white := fun _ => paint_ne_white (by simp)
        rw [searchFrom, if_pos hwhite]
        cases hverdict : Search.run graph (Search.enter graph ⟨color, [], []⟩ node) with
        | exhausted later =>
            rw [hverdict] at hrun
            obtain ⟨hlater, hkept⟩ := hrun
            obtain ⟨hrest, hcovered⟩ := ih hlater
            refine ⟨hrest.of_not_white fun other h => hkept other (hentered other h), ?_⟩
            intro final hfinal other hother
            change graph.searchFrom later rest = .exhausted final at hfinal
            rcases List.mem_cons.mp hother with rfl | hother
            · rw [hfinal] at hrest
              exact hrest.2 other (hkept other (by simp [Search.enter, paint]))
            · exact hcovered final hfinal other hother
        | cycle nodes =>
            rw [hverdict] at hrun
            exact ⟨hrun, by simp⟩
        | astray other =>
            rw [hverdict] at hrun
            exact hrun.elim
      · obtain ⟨hrest, hcovered⟩ := ih hvalid
        rw [searchFrom, if_neg hwhite]
        refine ⟨hrest, ?_⟩
        intro final hfinal other hother
        rcases List.mem_cons.mp hother with rfl | hother
        · rw [hfinal] at hrest
          exact hrest.2 other hwhite
        · exact hcovered final hfinal other hother

theorem valid_start (graph : Graph n) : (Search.mk (fun _ => .white) [] []).Valid graph := by
  refine ⟨by simp, List.nodup_nil, List.isChain_nil, trivial, ?_, ?_⟩
  · intro source target hsource
    cases hsource
  · intro node hnode
    cases hnode

theorem search_sound (graph : Graph n) : graph.search.Sound graph (fun _ => .white) :=
  (searchFrom_sound graph.valid_start).1

theorem search_ne_astray (graph : Graph n) (node : Fin n) : graph.search ≠ .astray node := by
  intro hastray
  have hsound := graph.search_sound
  rw [hastray] at hsound
  exact hsound

theorem isCycle_of_findCycle? {graph : Graph n} {nodes : List (Fin n)}
    (hfound : graph.findCycle? = some nodes) : graph.IsCycle nodes := by
  have hsound := graph.search_sound
  unfold findCycle? at hfound
  cases hsearch : graph.search with
  | exhausted color => simp [hsearch] at hfound
  | cycle found =>
      rw [hsearch] at hfound hsound
      obtain rfl := Option.some.inj hfound
      exact hsound
  | astray node => simp [hsearch] at hfound

/-- When every search is exhausted every node is black, and no walk returns to one. -/
theorem acyclic_of_search {graph : Graph n} {color : Fin n → Color}
    (hsearch : graph.search = .exhausted color) : graph.Acyclic := by
  have hsound := graph.search_sound
  have hwhite : ∀ node ∈ List.finRange n, color node ≠ .white :=
    (searchFrom_sound graph.valid_start).2 color hsearch
  rw [hsearch] at hsound
  obtain ⟨hvalid, _⟩ := hsound
  intro node
  apply hvalid.no_return
  cases hcolor : color node with
  | white => exact absurd hcolor (hwhite node (List.mem_finRange node))
  | gray => simpa using (hvalid.gray_iff node).mp hcolor
  | black => exact hcolor

theorem findCycle?_eq_none_iff (graph : Graph n) :
    graph.findCycle? = none ↔ graph.Acyclic := by
  constructor
  · intro hnone
    cases hsearch : graph.search with
    | exhausted color => exact acyclic_of_search hsearch
    | cycle nodes => simp [findCycle?, hsearch] at hnone
    | astray node => exact absurd hsearch (graph.search_ne_astray node)
  · intro hacyclic
    rw [Option.eq_none_iff_forall_ne_some]
    intro nodes hfound
    exact (isCycle_of_findCycle? hfound).not_acyclic hacyclic

/-- What each turn lowers: the white nodes, then what is left on the stack. -/
def Search.cost (search : Search n) : Nat × Nat :=
  ((whites search.color).length, stackWork search.stack)

/-- No sequence of turns goes on for ever. -/
theorem wellFounded_turn (graph : Graph n) :
    WellFounded fun next search : Search n => search.turn graph = .inr next := by
  have hcost : WellFounded (InvImage (Prod.Lex (· < ·) (· < ·)) (@Search.cost n)) :=
    InvImage.wf Search.cost (WellFounded.prod_lex Nat.lt_wfRel.wf Nat.lt_wfRel.wf)
  apply Subrelation.wf _ hcost
  intro next search hturn
  rcases Search.turn_decreases hturn with h | ⟨h, hwork⟩
  · exact Prod.Lex.left _ _ h
  · exact Prod.Lex.right' _ h hwork

/-- The search ends and finds nothing exactly when the graph is acyclic.  What it finds is
a cycle, and it never meets a gray node that the path does not hold. -/
theorem findCycle?_exact (graph : Graph n) :
    (WellFounded fun next search : Search n => search.turn graph = .inr next) ∧
      (graph.findCycle? = none ↔ graph.Acyclic) ∧
      (∀ nodes, graph.findCycle? = some nodes → graph.IsCycle nodes) ∧
      ∀ node, graph.search ≠ .astray node :=
  ⟨graph.wellFounded_turn, graph.findCycle?_eq_none_iff, fun _ => isCycle_of_findCycle?,
    graph.search_ne_astray⟩

theorem findCycle?_exact_second_component :
    (Graph.mk [((0 : Fin 4), 1), (3, 2), (2, 3)]).findCycle? = some [2, 3, 2] ∧
      (Graph.mk [((0 : Fin 4), 1), (3, 2), (2, 3)]).IsCycle [2, 3, 2] := by
  have hfound : (Graph.mk [((0 : Fin 4), 1), (3, 2), (2, 3)]).findCycle? = some [2, 3, 2] := by
    cbv
  exact ⟨hfound, (findCycle?_exact _).2.2.1 _ hfound⟩

end TaskScript.Graph
