import Stencil.Node.Reader
import Stencil.Proofs.Node.Nesting

/-!
# The shape of blocks that were read

A block that was read from tokens holds exactly one body.  The reader keeps this as a fact about its
stack of open tags: a tag that claims bodies and stands for a block has no complete body yet and no
tag that would begin a further one.  What a factory got is shaped, and a block that it makes holds one
body.
-/

set_option autoImplicit false

namespace Stencil

namespace Node

mutual

/-- Every block of a node holds exactly one body. -/
def Shaped : Node → Prop
  | tag head bodies _ => (head.block?.isSome → bodies.length = 1) ∧ ShapedInBodies bodies
  | _ => True

/-- Every block of some nodes holds exactly one body. -/
def ShapedAll : List Node → Prop
  | [] => True
  | n :: rest => Shaped n ∧ ShapedAll rest

/-- Every block of some bodies holds exactly one body. -/
def ShapedInBodies : List (List Node) → Prop
  | [] => True
  | body :: rest => ShapedAll body ∧ ShapedInBodies rest

end

/-- Two lists of nodes are shaped if both are. -/
theorem shapedAll_append {l₁ l₂ : List Node} :
    ShapedAll (l₁ ++ l₂) ↔ ShapedAll l₁ ∧ ShapedAll l₂ := by
  induction l₁ with
  | nil => simp [ShapedAll]
  | cons n rest ih => simp only [List.cons_append, ShapedAll, ih, and_assoc]

/-- Nodes are shaped if each of them is. -/
theorem shapedAll_iff_forall {nodes : List Node} : ShapedAll nodes ↔ ∀ n ∈ nodes, Shaped n := by
  induction nodes with
  | nil => simp [ShapedAll]
  | cons n rest ih => simp only [ShapedAll, ih, List.forall_mem_cons]

/-- Two lists of bodies are shaped if both are. -/
theorem shapedInBodies_append {l₁ l₂ : List (List Node)} :
    ShapedInBodies (l₁ ++ l₂) ↔ ShapedInBodies l₁ ∧ ShapedInBodies l₂ := by
  induction l₁ with
  | nil => simp [ShapedInBodies]
  | cons body rest ih => simp only [List.cons_append, ShapedInBodies, ih, and_assoc]

mutual

/-- A node has as many bodies as its blocks and what is in them are deep, even when the deepest
block is not the one with the deepest content. -/
theorem outerHeight_add_innerHeight_le {n : Node} (h : Shaped n) :
    outerHeight n + innerHeight n ≤ bodyCount n := by
  cases n with
  | literal t => simp [outerHeight, innerHeight]
  | output o t => simp [outerHeight, innerHeight]
  | tag head bodies t =>
    obtain ⟨hblock, hbodies⟩ := h
    simp only [outerHeight, innerHeight, bodyCount]
    by_cases hb : head.block?.isSome = true
    · obtain ⟨body, rfl⟩ := List.length_eq_one_iff.1 (hblock hb)
      have hle := heightInBodies_le_bodyCount [body]
      simp only [hb, if_true, heightInBodies] at hle ⊢
      omega
    · simp only [hb]
      exact outerHeightInBodies_add_innerHeight_le hbodies

/-- Outside and inside of their blocks together, nodes are no higher than they have bodies. -/
theorem outerHeightAll_add_innerHeight_le {nodes : List Node} (h : ShapedAll nodes) :
    outerHeightAll nodes + innerHeightAll nodes ≤ bodyCountAll nodes := by
  cases nodes with
  | nil => simp [outerHeightAll, innerHeightAll]
  | cons n rest =>
    have hn := outerHeight_add_innerHeight_le h.1
    have hrest := outerHeightAll_add_innerHeight_le h.2
    simp only [outerHeightAll, innerHeightAll, bodyCountAll]
    omega

/-- Outside and inside of their blocks together, bodies are no higher than they are and have bodies.
-/
theorem outerHeightInBodies_add_innerHeight_le {bodies : List (List Node)}
    (h : ShapedInBodies bodies) :
    outerHeightInBodies bodies + innerHeightInBodies bodies ≤ bodyCountInBodies bodies := by
  cases bodies with
  | nil => simp [outerHeightInBodies, innerHeightInBodies]
  | cons body rest =>
    have hbody := outerHeightAll_add_innerHeight_le h.1
    have hrest := outerHeightInBodies_add_innerHeight_le h.2
    simp only [outerHeightInBodies, innerHeightInBodies, bodyCountInBodies]
    omega

end

end Node

/-- A step of a computation that gives a result has given one itself. -/
theorem ok_of_bind_eq_ok {ε α β : Type} {r : Except ε α} {f : α → Except ε β} {b : β}
    (h : (r >>= f) = .ok b) : ∃ a, r = .ok a ∧ f a = .ok b := by
  cases r with
  | error e => simp [bind, Except.bind] at h
  | ok a => exact ⟨a, rfl, h⟩

/-- What is computed from a result tells that there is one. -/
theorem exists_ok_of_map_toOption {ε α β : Type} {r : Except ε α} {f : α → β} {b : β}
    (h : r.toOption.map f = some b) : ∃ a, r = .ok a ∧ f a = b := by
  cases r with
  | error e => simp [Except.toOption] at h
  | ok a => exact ⟨a, rfl, by simpa [Except.toOption] using h⟩

/-- A result made from another one has what every such result has. -/
theorem Head.block?_of_map {α : Type} {r : Except Error α} {f : α → Head} {head : Head}
    (h : (do let a ← r; return f a) = .ok head) (hf : ∀ a, (f a).block? = none) :
    head.block? = none := by
  obtain ⟨a, _, ha⟩ := ok_of_bind_eq_ok h
  cases ha
  exact hf a

/-- What an assignment is read as. -/
theorem exists_of_assignment {t : Token} {head : Head} (h : assignment t = .ok head) :
    ∃ name value, head = .assign name value := by
  unfold assignment at h
  split at h
  · cases h
  · obtain ⟨value, _, h⟩ := ok_of_bind_eq_ok h
    cases h
    exact ⟨_, value, rfl⟩

/-- What a loop is read as. -/
theorem exists_of_loopHead {t : Token} {head : Head} (h : loopHead t = .ok head) :
    ∃ l, head = .loop l := by
  unfold loopHead at h
  obtain ⟨lexemes, _, h⟩ := ok_of_bind_eq_ok h
  obtain ⟨⟨var, rest⟩, _, h⟩ := ok_of_bind_eq_ok h
  dsimp only at h
  split at h
  · obtain ⟨⟨collection, modifiers⟩, _, h⟩ := ok_of_bind_eq_ok h
    obtain ⟨l, _, h⟩ := ok_of_bind_eq_ok h
    cases h
    exact ⟨l, rfl⟩
  · cases h

/-- What an inclusion is read as. -/
theorem exists_of_inclusionHead {t : Token} {head : Head} (h : inclusionHead t = .ok head) :
    ∃ name params, head = .inclusion name params := by
  unfold inclusionHead ExprFault.inToken at h
  split at h
  · next inner hinner =>
    cases h
    obtain ⟨lexemes, _, hinner⟩ := ok_of_bind_eq_ok hinner
    obtain ⟨⟨name, rest⟩, _, hinner⟩ := ok_of_bind_eq_ok hinner
    obtain ⟨params, _, hinner⟩ := ok_of_bind_eq_ok hinner
    cases hinner
    exact ⟨name, params, rfl⟩
  · cases h

/-- Only tags that claim one body are read as blocks. -/
theorem TagKind.form_of_head_block {kind : TagKind} {t : Token} {claimed : List Token} {head : Head}
    (h : kind.head t claimed = .ok head) (hb : head.block?.isSome) :
    ∃ close, kind.form = .body none none close := by
  have absurd_of (hnone : head.block? = none) : ∃ close, kind.form = .body none none close := by
    simp [hnone] at hb
  cases kind with
  | block => exact ⟨_, rfl⟩
  | assign =>
    obtain ⟨name, value, rfl⟩ := exists_of_assignment h
    exact absurd_of rfl
  | loop =>
    obtain ⟨l, rfl⟩ := exists_of_loopHead h
    exact absurd_of rfl
  | inclusion =>
    obtain ⟨name, params, rfl⟩ := exists_of_inclusionHead h
    exact absurd_of rfl
  | layout | capture | conditional | negated =>
    exact absurd_of (Head.block?_of_map h fun _ => rfl)
  | signal | raw | comment | custom =>
    cases h
    exact absurd_of rfl

/-- A tag that begins a further body does not change which block a head stands for. -/
theorem Head.block?_again {head next : Head} {t : Token} (h : head.again t = .ok next) :
    next.block? = head.block? := by
  unfold Head.again at h
  split at h
  · exact Head.block?_of_map h fun _ => rfl
  · cases h; rfl

/-- The nodes that a factory got are shaped. -/
def Answer.Shaped : Answer → Prop
  | node (.ok n) => Node.Shaped n
  | _ => True

section Got

variable {got : List Answer} (h : ∀ answer ∈ got, answer.Shaped)

include h

/-- A body of nodes that a factory got is shaped. -/
theorem Answer.shapedAll_nodesAt (places : List Nat) : Node.ShapedAll (nodesAt got places) := by
  apply Node.shapedAll_iff_forall.2
  intro n hn
  obtain ⟨i, -, hi⟩ := List.mem_filterMap.1 hn
  split at hi
  · next hnode =>
    cases hi
    exact h _ (List.mem_of_getElem? hnode)
  · cases hi

/-- The bodies of a tag that a factory makes are shaped. -/
theorem Made.shapedInBodies_bodies (made : Made) : Node.ShapedInBodies (made.bodies got) := by
  cases made with
  | block script name body => exact ⟨Answer.shapedAll_nodesAt h body, trivial⟩
  | tag script layout bodies =>
    unfold Made.bodies
    induction bodies with
    | nil => trivial
    | cons body rest ih => exact ⟨Answer.shapedAll_nodesAt h body, ih⟩

/-- A further answer without a node leaves what a factory got shaped. -/
theorem Answer.shaped_concat {answer : Answer} (hanswer : answer.Shaped) :
    ∀ a ∈ got ++ [answer], a.Shaped := by
  intro a ha
  rcases List.mem_append.1 ha with ha | ha
  · exact h a ha
  · rw [List.mem_singleton.1 ha]
    exact hanswer

/-- So does a node that is shaped. -/
theorem Progress.shaped_answers {nodes : List Node} (hnodes : Node.ShapedAll nodes) :
    ∀ a ∈ Progress.answers got nodes, a.Shaped := by
  intro a ha
  rcases List.mem_append.1 ha with ha | ha
  · exact h a ha
  · obtain ⟨n, hn, rfl⟩ := List.mem_map.1 ha
    exact Node.shapedAll_iff_forall.1 hnodes n hn

end Got

/-- A block that a factory makes has one body. -/
theorem Made.length_bodies {made : Made} (got : List Answer) (h : made.head.block?.isSome) :
    (made.bodies got).length = 1 := by
  cases made with
  | block script name body => rfl
  | tag => cases h

/-- An open tag whose nodes are shaped, and which as a block waits for its only body. -/
def OpenTag.Shaped (o : OpenTag) : Prop :=
  Node.ShapedAll o.before ∧
    match o.pending with
    | .verbatim close _ => o.kind.form = .verbatim close
    | .body head complete again last _ =>
      Node.ShapedInBodies complete ∧
        (head.block?.isSome → complete = [] ∧ again = none ∧ last = none)
    | .free _ got => ∀ answer ∈ got, answer.Shaped

/-- What was read so far is shaped, inside every open tag. -/
def Progress.Shaped (p : Progress) : Prop :=
  Node.ShapedAll p.nodes ∧ ∀ o ∈ p.opened, o.Shaped

/-- Closing a tag with shaped bodies, as many as its head asks for, keeps what was read shaped. -/
theorem OpenTag.Shaped.close {o : OpenTag} {head : Head} {bodies : List (List Node)} (ho : o.Shaped)
    (hhead : head.block?.isSome → bodies.length = 1) (hbodies : Node.ShapedInBodies bodies) :
    Node.ShapedAll (o.before ++ [.tag head bodies o.opener]) :=
  Node.shapedAll_append.2 ⟨ho.1, ⟨hhead, hbodies⟩, trivial⟩

/-- Closing a tag that claimed no bodies keeps what was read shaped, for such a tag is no block. -/
theorem OpenTag.Shaped.close_unread {o : OpenTag} {head : Head} {claimed : List Token}
    (ho : o.Shaped) (hhead : o.kind.head o.opener claimed = .ok head)
    (hform : ∀ close, o.kind.form ≠ .body none none close) :
    Node.ShapedAll (o.before ++ [.tag head [] o.opener]) := by
  refine ho.close (fun hb => ?_) trivial
  obtain ⟨close, hclose⟩ := TagKind.form_of_head_block hhead hb
  exact absurd hclose (hform close)

/-- So does closing a tag that a factory made. -/
theorem OpenTag.Shaped.close_made {o : OpenTag} {got : List Answer} (ho : o.Shaped)
    (hgot : ∀ answer ∈ got, answer.Shaped) (made : Made) :
    Node.ShapedAll (o.before ++ [.tag made.head (made.bodies got) o.opener]) :=
  ho.close (made.length_bodies got) (made.shapedInBodies_bodies hgot)

namespace Progress

/-- A shaped node is added to shaped ones. -/
theorem Shaped.add {p : Progress} {n : Node} (hp : p.Shaped) (hn : Node.Shaped n) :
    (p.add n).Shaped :=
  ⟨Node.shapedAll_append.2 ⟨hp.1, hn, trivial⟩, hp.2⟩

/-- A tag that opens keeps what has been read shaped. -/
theorem Shaped.enter {p : Progress} {opener : Token} {kind : TagKind} {pending : Pending}
    (hp : p.Shaped) (ho : OpenTag.Shaped ⟨opener, kind, p.nodes, pending⟩) :
    (p.enter opener kind pending).Shaped :=
  ⟨trivial, List.forall_mem_cons.2 ⟨ho, hp.2⟩⟩

/-- What a token begins is shaped. -/
theorem Shaped.begin {tags : Dict TagKind} {p p' : Progress} {t : Token} (hp : p.Shaped)
    (h : p.begin tags t = .ok p') : p'.Shaped := by
  unfold Progress.begin at h
  split at h
  · cases h; exact hp.add trivial
  · obtain ⟨o, _, h⟩ := ok_of_bind_eq_ok h
    cases h
    exact hp.add trivial
  · split at h
    · cases h
    · next kind _ =>
      split at h
      · next hform =>
        obtain ⟨head, hhead, h⟩ := ok_of_bind_eq_ok h
        cases h
        refine hp.add ⟨fun hb => ?_, trivial⟩
        obtain ⟨close, hclose⟩ := TagKind.form_of_head_block hhead hb
        rw [hform] at hclose
        cases hclose
      · next close hform =>
        cases h
        exact hp.enter ⟨hp.1, hform⟩
      · next again last close hform =>
        obtain ⟨head, hhead, h⟩ := ok_of_bind_eq_ok h
        cases h
        refine hp.enter ⟨hp.1, trivial, fun hb => ?_⟩
        obtain ⟨close', hclose⟩ := TagKind.form_of_head_block hhead hb
        rw [hform] at hclose
        cases hclose
        exact ⟨rfl, rfl, rfl⟩
      · cases h
        exact hp.enter ⟨hp.1, List.forall_mem_nil _⟩

/-- A factory that is told what went wrong finds what was read around its tag shaped. -/
theorem shaped_recover {e : Error} {opened : List OpenTag} {p : Progress}
    (hopened : ∀ o ∈ opened, o.Shaped) (h : recover e opened = .ok p) : p.Shaped := by
  induction opened with
  | nil => cases h
  | cons o outer ih =>
    obtain ⟨ho, houter⟩ := List.forall_mem_cons.1 hopened
    unfold recover at h
    split at h
    · next factory got hfree =>
      cases h
      have hgot := ho.2
      rw [hfree] at hgot
      exact ⟨trivial, List.forall_mem_cons.2 ⟨⟨ho.1, Answer.shaped_concat hgot trivial⟩, houter⟩⟩
    · exact ih houter h

/-- A step that may be told to a factory keeps what was read shaped if the step does. -/
theorem shaped_orRecover {opened : List OpenTag} {r : Except Error Progress} {p : Progress}
    (hopened : ∀ o ∈ opened, o.Shaped) (hr : ∀ q, r = .ok q → q.Shaped)
    (h : orRecover opened r = .ok p) : p.Shaped := by
  cases r with
  | ok q =>
    cases h
    exact hr _ rfl
  | error e => exact shaped_recover hopened h

/-- A call of a factory keeps what was read shaped. -/
theorem Shaped.turn {tags : Dict TagKind} {next : Option Token} {p q : Progress} (hp : p.Shaped)
    (h : p.turn tags next = some (.ok q)) : q.Shaped := by
  unfold Progress.turn at h
  split at h
  · cases h
  · next o outer hopened =>
    have hstack : ∀ u ∈ o :: outer, u.Shaped := hopened ▸ hp.2
    obtain ⟨ho, houter⟩ := List.forall_mem_cons.1 hstack
    split at h
    · next factory got hfree =>
      have hgot := ho.2
      rw [hfree] at hgot
      have hnodes := shaped_answers hgot hp.1
      -- the factory has the nodes among its answers, and none stands behind the tag
      have told {got : List Answer} (hgot : ∀ answer ∈ got, answer.Shaped) :
          ∀ u ∈ { o with pending := .free factory got } :: outer, u.Shaped :=
        List.forall_mem_cons.2 ⟨⟨ho.1, hgot⟩, houter⟩
      dsimp only at h
      split at h
      · split at h
        · cases h
        · cases h
          exact ⟨trivial, told (Answer.shaped_concat hnodes trivial)⟩
      · cases h
        exact ⟨trivial, told (Answer.shaped_concat hnodes trivial)⟩
      · refine shaped_orRecover (told hnodes) (fun q hq => ?_) (Option.some.inj h)
        have hstart : Shaped ⟨[], { o with pending := .free factory _ } :: outer⟩ :=
          ⟨trivial, told hnodes⟩
        exact hstart.begin hq
      · cases h
        exact ⟨ho.close_made hnodes _, houter⟩
      · exact shaped_recover houter (Option.some.inj h)
    · split at h
      · cases h
      · exact shaped_recover hp.2 (Option.some.inj h)

/-- What factories do before the next token keeps what was read shaped. -/
theorem Shaped.settle {tags : Dict TagKind} {next : Option Token} {n : Nat} {p q : Progress}
    (hp : p.Shaped) (h : p.settle tags next n = .ok q) : q.Shaped := by
  induction n generalizing p with
  | zero => cases h
  | succ n ih =>
    unfold Progress.settle at h
    split at h
    · cases h
      exact hp
    · next r hturn =>
      obtain ⟨p', rfl, h⟩ := ok_of_bind_eq_ok h
      exact ih (hp.turn hturn) h

/-- What a token is read as is shaped. -/
theorem Shaped.read {tags : Dict TagKind} {p p' : Progress} {t : Token} (hp : p.Shaped)
    (h : p.read tags t = .ok p') : p'.Shaped := by
  unfold Progress.read at h
  split at h
  · exact hp.begin h
  · next o outer hopened =>
    have ho : o.Shaped := hp.2 o (hopened ▸ List.mem_cons_self ..)
    have houter : ∀ o ∈ outer, o.Shaped := fun q hq => hp.2 q (hopened ▸ List.mem_cons_of_mem _ hq)
    have hpending := ho.2
    split at h
    · next close claimed hverb =>
      rw [hverb] at hpending
      split at h
      · obtain ⟨head, hhead, h⟩ := ok_of_bind_eq_ok h
        cases h
        refine ⟨ho.close_unread hhead fun close' hclose => ?_, houter⟩
        simp [hclose] at hpending
      · cases h
        exact ⟨hp.1, List.forall_mem_cons.2 ⟨⟨ho.1, hpending⟩, houter⟩⟩
    · next head complete again last close hbody =>
      rw [hbody] at hpending
      obtain ⟨hcomplete, hblock⟩ := hpending
      have hbodies : Node.ShapedInBodies (complete ++ [p.nodes]) :=
        Node.shapedInBodies_append.2 ⟨hcomplete, hp.1, trivial⟩
      split at h
      · cases h
        refine ⟨ho.close (fun hb => ?_) hbodies, houter⟩
        rw [(hblock hb).1]
        rfl
      · split at h
        · next hagain =>
          obtain ⟨next, hnext, h⟩ := ok_of_bind_eq_ok h
          cases h
          refine ⟨trivial, List.forall_mem_cons.2 ⟨⟨ho.1, hbodies, fun hb => ?_⟩, houter⟩⟩
          rw [Head.block?_again hnext] at hb
          rw [(hblock hb).2.1] at hagain
          cases hagain
        · split at h
          · next hlast =>
            cases h
            refine ⟨trivial, List.forall_mem_cons.2 ⟨⟨ho.1, hbodies, fun hb => ?_⟩, houter⟩⟩
            rw [(hblock hb).2.2] at hlast
            cases hlast
          · exact hp.begin h
    · next factory got hfree =>
      rw [hfree] at hpending
      cases h
      have htoken : (Answer.token (some t)).Shaped := trivial
      have hgot := Answer.shaped_concat (shaped_answers hpending hp.1) htoken
      exact ⟨trivial, List.forall_mem_cons.2 ⟨⟨ho.1, hgot⟩, houter⟩⟩

/-- A token keeps what has been read shaped. -/
theorem Shaped.step {tags : Dict TagKind} {p p' : Progress} {t : Token} (hp : p.Shaped)
    (h : p.step tags t = .ok p') : p'.Shaped := by
  obtain ⟨q, hq, h⟩ := ok_of_bind_eq_ok h
  have hready : q.Shaped := hp.settle hq
  exact shaped_orRecover hready.2 (fun _ hread => hready.read hread) h

/-- Tokens keep what has been read shaped. -/
theorem Shaped.steps {tags : Dict TagKind} {tokens : List Token} {p p' : Progress} (hp : p.Shaped)
    (h : tokens.foldlM (Progress.step tags) p = .ok p') : p'.Shaped := by
  induction tokens generalizing p with
  | nil => cases h; exact hp
  | cons t rest ih =>
    rw [List.foldlM_cons] at h
    obtain ⟨q, hq, h⟩ := ok_of_bind_eq_ok h
    exact ih (hp.step hq) h

/-- What has been read in the end is shaped. -/
theorem Shaped.finish {tags : Dict TagKind} {p : Progress} {nodes : List Node} (hp : p.Shaped)
    (h : p.finish tags = .ok nodes) : Node.ShapedAll nodes := by
  obtain ⟨q, hq, h⟩ := ok_of_bind_eq_ok h
  cases h
  exact (hp.settle hq).1

end Progress

/-- Every block that was read from tokens holds exactly one body. -/
theorem Node.shapedAll_of_readAll {tags : Dict TagKind} {tokens : List Token} {nodes : List Node}
    (h : Node.readAll tags tokens = .ok nodes) : Node.ShapedAll nodes := by
  obtain ⟨p, hp, h⟩ := ok_of_bind_eq_ok h
  have start : Progress.Shaped {} := ⟨trivial, by simp⟩
  exact (start.steps hp).finish h

end Stencil
