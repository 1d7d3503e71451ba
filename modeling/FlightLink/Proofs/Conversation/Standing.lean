import FlightLink.Message
import Mathlib.Tactic.Common

/-!
# Joining and leaving an association

The channels are set aside here.  Two sides that have been identified ask each
other for an association, answer, and leave again.  A side that is aloof ignores
every request, and so does a side that has joined.  A request can therefore be
lost, and requests and farewells can cross.

What matters of the messages on the way to a side is how they leave a side that
is willing to join.  This decides two things: a side that is aloof has its
farewell on the way to the other one, and as long as neither is aloof but one
has not joined, there is a request on the way that will be answered.
-/

namespace FlightLink

/-- How a side stands to the association. -/
inductive Standing where
  /-- It has not asked for the association. -/
  | aloof
  /-- It has asked, or is about to, and waits for an answer. -/
  | asking
  | joined
  deriving DecidableEq

namespace Standing

/-- Whether a willing side is joined once it has taken a message. -/
def joins (up : Bool) (m : Message) : Bool :=
  if m = .startup then true else if m = .shutdown then false else up

/-- Whether a willing side is joined once it has taken some messages. -/
def joinsAll (up : Bool) (l : List Message) : Bool :=
  l.foldl joins up

/-- Whether there is a request among some messages that finds a willing side not
joined. -/
def Answers : Bool → List Message → Prop
  | _, [] => False
  | up, m :: rest => up = false ∧ m = .startup ∨ Answers (joins up m) rest

/-- What a side does: the messages that it takes, how it stands then, and the
messages that it sends. -/
inductive Turn : Standing → List Message → Standing → List Message → Prop where
  | rest (s : Standing) : Turn s [] s []
  | ask : Turn aloof [] asking [.startup]
  | insist : Turn asking [] asking [.startup]
  | withdraw : Turn asking [] aloof [.shutdown]
  /-- It withdraws a request while an earlier one is still to be confirmed. -/
  | waver : Turn asking [] asking [.shutdown]
  | leave : Turn joined [] aloof [.shutdown]
  | talk {m : Message} (hup : m ≠ .startup) (hdown : m ≠ .shutdown) :
      Turn joined [] joined [m]
  | overhear (m : Message) : Turn aloof [m] aloof []
  | answer : Turn asking [.startup] joined [.startup]
  | abide {m : Message} (hup : m ≠ .startup) : Turn asking [m] asking []
  | part : Turn joined [.shutdown] asking []
  | hear {m : Message} (hdown : m ≠ .shutdown) : Turn joined [m] joined []

def isJoined : Standing → Bool
  | joined => true
  | aloof | asking => false

/-- What a side that stands in a certain way has on its way to the other one. -/
structure Announces (s : Standing) (peer : Standing) (toPeer : List Message) : Prop where
  presence : s = .joined → joinsAll true toPeer = true
  farewell : s = .aloof → joinsAll peer.isJoined toPeer = false

/-- Two sides, each with the messages on their way to it, that will agree. -/
structure Concord (near : Standing) (toNear : List Message) (far : Standing)
    (toFar : List Message) : Prop where
  here : Announces near far toFar
  there : Announces far near toNear
  bound : near ≠ .aloof → far ≠ .aloof →
    near = .joined ∧ far = .joined ∨ Answers near.isJoined toNear ∨
      Answers far.isJoined toFar

variable {up : Bool} {m : Message} {l l' : List Message}

/-! ## Messages on the way -/

@[simp] theorem joins_startup : joins up .startup = true :=
  if_pos rfl

@[simp] theorem joins_shutdown : joins up .shutdown = false := by
  have hne : Message.shutdown ≠ .startup := by decide
  rw [joins, if_neg hne, if_pos rfl]

theorem joins_of_ne (hup : m ≠ .startup) (hdown : m ≠ .shutdown) : joins up m = up := by
  rw [joins, if_neg hup, if_neg hdown]

/-- Only a request brings in a willing side. -/
theorem joins_false (hup : m ≠ .startup) : joins false m = false := by
  rw [joins, if_neg hup]
  split <;> rfl

/-- Only a farewell sends away a side that has joined. -/
theorem joins_true (hdown : m ≠ .shutdown) : joins true m = true := by
  rw [joins, if_neg hdown]
  split <;> rfl

@[simp] theorem joinsAll_cons : joinsAll up (m :: l) = joinsAll (joins up m) l := rfl

theorem joinsAll_append : joinsAll up (l ++ l') = joinsAll (joinsAll up l) l' :=
  List.foldl_append

theorem joinsAll_append_startup : joinsAll up (l ++ [.startup]) = true := by
  rw [joinsAll_append, joinsAll_cons, joins_startup]
  rfl

theorem joinsAll_append_shutdown : joinsAll up (l ++ [.shutdown]) = false := by
  rw [joinsAll_append, joinsAll_cons, joins_shutdown]
  rfl

/-- What makes others join keeps a side that has joined. -/
theorem joinsAll_true (h : joinsAll up l = true) : joinsAll true l = true := by
  cases up with
  | true => exact h
  | false =>
      induction l with
      | nil => cases h
      | cons m l ih =>
          by_cases hup : m = .startup
          · subst hup
            simpa using h
          by_cases hdown : m = .shutdown
          · subst hdown
            simpa using h
          rw [joinsAll_cons, joins_of_ne hup hdown] at h ⊢
          exact ih h

/-- What makes a side leave that has joined keeps others away. -/
theorem joinsAll_false (h : joinsAll true l = false) : joinsAll up l = false := by
  by_contra htrue
  have hjoined := joinsAll_true (Bool.not_eq_false _ ▸ htrue)
  rw [h] at hjoined
  cases hjoined

/-- Whoever comes to join has been answered. -/
theorem answers_of_joinsAll (h : joinsAll false l = true) : Answers false l := by
  induction l with
  | nil => cases h
  | cons m l ih =>
      by_cases hup : m = .startup
      · exact .inl ⟨rfl, hup⟩
      · right
        rw [joinsAll_cons, joins_false hup] at h
        rw [joins_false hup]
        exact ih h

theorem Answers.append (h : Answers up l) (more : List Message) :
    Answers up (l ++ more) := by
  induction l generalizing up with
  | nil => cases h
  | cons m l ih => exact h.imp_right ih

/-- A request is answered at the end of what leaves a side not joined. -/
theorem answers_append_startup (h : joinsAll up l = false) :
    Answers up (l ++ [.startup]) := by
  induction l generalizing up with
  | nil => exact .inl ⟨h, rfl⟩
  | cons m l ih => exact .inr (ih h)

theorem Answers.of_cons_of_ne (h : Answers up (m :: l)) (hup : m ≠ .startup) :
    Answers (joins up m) l :=
  h.resolve_left fun hfirst => hup hfirst.2

theorem Answers.of_cons_true (h : Answers true (m :: l)) : Answers (joins true m) l :=
  h.resolve_left fun hfirst => Bool.false_ne_true hfirst.1.symm

/-! ## Turns -/

variable {near near' far : Standing} {received rest toNear toFar sent : List Message}

theorem Concord.symm (h : Concord near toNear far toFar) :
    Concord far toFar near toNear := by
  refine ⟨h.there, h.here, ?_⟩
  intro hfar hnear
  rcases h.bound hnear hfar with hboth | hanswers | hanswers
  · exact .inl hboth.symm
  · exact .inr (.inr hanswers)
  · exact .inr (.inl hanswers)

/-- Two sides between which nothing is on the way agree, and they are joined if
neither is aloof. -/
theorem Concord.agree (h : Concord near [] far []) :
    (near = .joined ↔ far = .joined) ∧
      (near ≠ .aloof → far ≠ .aloof → near = .joined ∧ far = .joined) := by
  have hboth : near ≠ .aloof → far ≠ .aloof → near = .joined ∧ far = .joined := by
    intro hnear hfar
    rcases h.bound hnear hfar with hboth | hanswers | hanswers
    · exact hboth
    · exact hanswers.elim
    · exact hanswers.elim
  have hapart : ∀ {s s' : Standing}, Announces s s' [] → s = .aloof → s' ≠ .joined := by
    intro s s' hannounces haloof hjoined
    have hfarewell := hannounces.farewell haloof
    rw [hjoined] at hfarewell
    cases hfarewell
  refine ⟨⟨?_, ?_⟩, hboth⟩
  · intro hjoined
    have hfar : far ≠ .aloof := fun haloof => hapart h.there haloof hjoined
    exact (hboth (by rw [hjoined]; decide) hfar).2
  · intro hjoined
    have hnear : near ≠ .aloof := fun haloof => hapart h.here haloof hjoined
    exact (hboth hnear (by rw [hjoined]; decide)).1

/-- The far side, whose messages wait for the near side, when the near side takes
one of them in. -/
theorem Announces.taken (h : Announces far near (m :: rest))
    (hjoins : near'.isJoined = joins near.isJoined m) : Announces far near' rest := by
  constructor
  · exact fun hjoined => joinsAll_true (h.presence hjoined)
  · intro haloof
    rw [hjoins]
    exact h.farewell haloof

theorem Announces.overheard (h : Announces far .aloof (m :: rest)) :
    Announces far .aloof rest := by
  constructor
  · exact fun hjoined => joinsAll_true (h.presence hjoined)
  · intro haloof
    have htaken := h.farewell haloof
    rw [joinsAll_cons, isJoined] at htaken
    cases hup : joins false m with
    | true =>
        rw [hup] at htaken
        exact joinsAll_false htaken
    | false => rwa [hup] at htaken

/-- The near side can leave before it has taken what waits for it. -/
theorem Announces.left (h : Announces far near toNear) : Announces far .aloof toNear := by
  refine ⟨h.presence, fun haloof => ?_⟩
  have htaken := h.farewell haloof
  cases near with
  | joined => exact joinsAll_false htaken
  | aloof | asking => exact htaken

/-- Whatever the near side does, the two sides will still agree. -/
theorem Concord.turn (h : Concord near (received ++ rest) far toFar)
    (hturn : Turn near received near' sent) :
    Concord near' rest far (toFar ++ sent) := by
  obtain ⟨hhere, hthere, hbound⟩ := h
  -- A request on the way to the far side is answered whatever is sent after it.
  have hbehind : near ≠ .aloof → far ≠ .aloof → near = .joined ∧ far = .joined ∨
      Answers near.isJoined (received ++ rest) ∨ Answers far.isJoined (toFar ++ sent) :=
    fun hnear hfar => (hbound hnear hfar).imp_right (Or.imp_right (Answers.append · sent))
  cases hturn with
  | rest =>
      rw [List.append_nil]
      exact ⟨hhere, hthere, hbound⟩
  | ask =>
      refine ⟨⟨nofun, nofun⟩, ⟨hthere.presence, hthere.farewell⟩, ?_⟩
      intro _ _
      exact .inr (.inr (answers_append_startup (hhere.farewell rfl)))
  | insist | waver => exact ⟨⟨nofun, nofun⟩, hthere, hbehind⟩
  | withdraw | leave =>
      exact ⟨⟨nofun, fun _ => joinsAll_append_shutdown⟩, hthere.left,
        fun hnear => absurd rfl hnear⟩
  | talk hup hdown =>
      refine ⟨⟨fun hjoined => ?_, nofun⟩, hthere, hbehind⟩
      rw [joinsAll_append, hhere.presence hjoined]
      exact joins_of_ne hup hdown
  | overhear m =>
      rw [List.append_nil]
      exact ⟨⟨nofun, hhere.farewell⟩, hthere.overheard, fun hnear => absurd rfl hnear⟩
  | answer =>
      refine ⟨⟨fun _ => joinsAll_append_startup, nofun⟩, hthere.taken joins_startup.symm, ?_⟩
      intro _ hfar
      cases far with
      | aloof => exact absurd rfl hfar
      | joined => exact .inl ⟨rfl, rfl⟩
      | asking =>
          -- The answer is itself a request, unless an earlier one has brought
          -- the far side in already.
          refine .inr (.inr ?_)
          cases htaken : joinsAll false toFar with
          | true => exact (answers_of_joinsAll htaken).append _
          | false => exact answers_append_startup htaken
  | @abide m hup =>
      refine ⟨⟨nofun, nofun⟩, hthere.taken (joins_false hup).symm, ?_⟩
      intro hnear hfar
      refine (hbehind hnear hfar).imp_right (Or.imp_left fun hanswers => ?_)
      have hrest := hanswers.of_cons_of_ne hup
      rwa [isJoined, joins_false hup] at hrest
  | part =>
      refine ⟨⟨nofun, nofun⟩, hthere.taken joins_shutdown.symm, ?_⟩
      intro _ hfar
      rcases hbehind (by decide) hfar with ⟨-, hjoined⟩ | hanswers | hanswers
      · -- The far side has asked again since it left.
        have htaken := hthere.presence hjoined
        rw [List.singleton_append, joinsAll_cons, joins_shutdown] at htaken
        exact .inr (.inl (answers_of_joinsAll htaken))
      · have hup : Message.shutdown ≠ .startup := by decide
        have hrest := hanswers.of_cons_of_ne hup
        rw [joins_shutdown] at hrest
        exact .inr (.inl hrest)
      · exact .inr (.inr hanswers)
  | @hear m hdown =>
      rw [List.append_nil] at hbehind ⊢
      refine ⟨⟨hhere.presence, nofun⟩, hthere.taken (joins_true hdown).symm, ?_⟩
      intro hnear hfar
      refine (hbehind hnear hfar).imp_right (Or.imp_left fun hanswers => ?_)
      have hrest := hanswers.of_cons_true
      rwa [joins_true hdown] at hrest

end Standing

end FlightLink
