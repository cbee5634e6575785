import TezosNode.Client.Session

set_option autoImplicit false

/-!
# Client: pools

What closing the idle connections does to a pool.  Only connections that are idle at
that moment are closed, so that nothing is left for a second time.
-/

namespace TezosNode

/-! ## Connections -/

namespace Connection

variable {c : Connection}

/-- An idle connection is closed once more than before. -/
theorem closeIdle_of_idle (hidle : c.state = .idle) :
    c.closeIdle = ⟨.closed, c.closings + 1⟩ := by
  simp [closeIdle, hidle]

/-- A connection that is not idle is left alone. -/
theorem closeIdle_of_ne (hbusy : c.state ≠ .idle) : c.closeIdle = c := by
  unfold closeIdle
  cases hstate : c.state with
  | idle => exact absurd hstate hbusy
  | active => rfl
  | closed => rfl

theorem closeIdle_state_ne (c : Connection) : c.closeIdle.state ≠ .idle := by
  by_cases hidle : c.state = .idle
  · simp [closeIdle_of_idle hidle]
  · rw [closeIdle_of_ne hidle]
    exact hidle

end Connection

/-! ## Transports -/

namespace Transport

/-- Without a pool nothing is closed. -/
theorem closeIdle_of_pool_none {t : Transport} (hpool : t.pool = none) : t.closeIdle = t := by
  cases t
  simp_all [closeIdle]

/-- A pool without idle connections stays as it is. -/
theorem closeIdle_of_no_idle {t : Transport} {pool : List Connection}
    (hpool : t.pool = some pool) (hbusy : ∀ c ∈ pool, c.state ≠ .idle) : t.closeIdle = t := by
  have hsame : pool.map Connection.closeIdle = pool :=
    (List.map_congr_left fun c hmem => Connection.closeIdle_of_ne (hbusy c hmem)).trans
      (List.map_id pool)
  cases t
  simp_all [closeIdle]

/-- The second time closes nothing. -/
theorem closeIdle_closeIdle (t : Transport) : t.closeIdle.closeIdle = t.closeIdle := by
  cases hpool : t.pool with
  | none =>
    rw [closeIdle_of_pool_none hpool, closeIdle_of_pool_none hpool]
  | some pool =>
    have hclosed : t.closeIdle.pool = some (pool.map Connection.closeIdle) := by
      simp [closeIdle, hpool]
    refine closeIdle_of_no_idle hclosed ?_
    intro c hmem
    obtain ⟨before, _, rfl⟩ := List.mem_map.1 hmem
    exact before.closeIdle_state_ne

end Transport

/-! ## Transports of sessions -/

namespace Session

/-- Changing one transport changes no other. -/
theorem getD_modify (transports : List Transport) (change : Transport → Transport)
    (hplain : change .plain = .plain) (m n : Nat) :
    (transports.modify m change).getD n .plain =
      if n = m then change (transports.getD n .plain) else transports.getD n .plain := by
  by_cases hn : n = m
  · subst hn
    cases htransport : transports[n]? with
    | none => simp [htransport, hplain]
    | some t => simp [htransport]
  · simp [hn, Ne.symm hn]

/-- The idle connections of one transport are closed, and those of the others stay. -/
theorem transportAt_withoutIdle (s : Session) (m n : Nat) :
    (s.withoutIdle m).transportAt n =
      if n = m then (s.transportAt n).closeIdle else s.transportAt n :=
  getD_modify s.transports Transport.closeIdle rfl m n

end Session

/-! ## Closing at any moment -/

/-- A transport has become one whose idle connections have been closed: each of them has
been closed once more, and all others are as they were. -/
def Transport.HasClosedIdle (before after : Transport) : Prop :=
  after.pool.isSome = before.pool.isSome ∧
    ∀ connections, before.pool = some connections →
      ∃ later, after.pool = some later ∧ later.length = connections.length ∧
        ∀ (i : Nat) (c : Connection), connections[i]? = some c →
          later[i]? = some (if c.state = .idle then ⟨.closed, c.closings + 1⟩ else c)

/-- Closing the idle connections of a transport closes them and no others. -/
theorem Transport.hasClosedIdle_of_pool_eq {before after : Transport}
    (hpool : after.pool = before.closeIdle.pool) : before.HasClosedIdle after := by
  unfold HasClosedIdle
  rw [hpool]
  constructor
  · simp [closeIdle]
  · intro connections hconnections
    refine ⟨connections.map Connection.closeIdle, by simp [closeIdle, hconnections],
      List.length_map _, ?_⟩
    intro i c hc
    rw [List.getElem?_map, hc]
    by_cases hidle : c.state = .idle
    · simp [Connection.closeIdle_of_idle hidle, hidle]
    · simp [Connection.closeIdle_of_ne hidle, hidle]

/-- A transport whose idle connections have been closed has none left. -/
theorem Transport.closeIdle_of_pool_eq {before after : Transport}
    (hpool : after.pool = before.closeIdle.pool) : after.closeIdle = after := by
  have hagain : before.closeIdle.closeIdle.pool = before.closeIdle.pool :=
    congrArg Transport.pool before.closeIdle_closeIdle
  cases after with
  | mk pool isClosed =>
    simp only at hpool
    subst hpool
    exact congrArg (Transport.mk · isClosed) hagain

/-- Closing the idle connections of a transport that has none left changes nothing. -/
theorem Session.transports_closeIdle_of_eq {s : Session} {n : Nat}
    (hnone : (s.transportAt n).closeIdle = s.transportAt n) :
    (s.closeIdle n).transports = s.transports := by
  change s.transports.modify n Transport.closeIdle = s.transports
  refine List.ext_getElem? fun i => ?_
  rw [List.getElem?_modify]
  by_cases hi : n = i
  · subst hi
    cases htransport : s.transports[n]? with
    | none => rfl
    | some t =>
      have ht : s.transportAt n = t := by simp [Session.transportAt, htransport]
      rw [ht] at hnone
      simp [hnone]
  · simp [hi]

/-- What closing the idle connections of a transport does at any moment: exactly those
that are idle are closed, once, in that transport only; and if there are none, which is so
right after that and without a pool, nothing happens to any connection. -/
structure Session.ClosesIdle (s : Session) (n : Nat) : Prop where
  hasClosedIdle : (s.transportAt n).HasClosedIdle ((s.closeIdle n).transportAt n)
  others_eq : ∀ m, m ≠ n → (s.closeIdle n).transportAt m = s.transportAt m
  again_eq : ((s.closeIdle n).closeIdle n).transports = (s.closeIdle n).transports
  idleFree_eq :
    (∀ pool, (s.transportAt n).pool = some pool → ∀ c ∈ pool, c.state ≠ .idle) →
      (s.closeIdle n).transports = s.transports

theorem Session.transportAt_closeIdle (s : Session) (m n : Nat) :
    (s.closeIdle m).transportAt n =
      if n = m then (s.transportAt n).closeIdle else s.transportAt n :=
  s.transportAt_withoutIdle m n

theorem Session.closesIdle (s : Session) (n : Nat) : s.ClosesIdle n := by
  have hafter : (s.closeIdle n).transportAt n = (s.transportAt n).closeIdle := by
    rw [transportAt_closeIdle, if_pos rfl]
  constructor
  · exact Transport.hasClosedIdle_of_pool_eq (congrArg Transport.pool hafter)
  · intro m hm
    rw [transportAt_closeIdle, if_neg hm]
  · apply transports_closeIdle_of_eq
    rw [hafter, Transport.closeIdle_closeIdle]
  · intro hbusy
    apply transports_closeIdle_of_eq
    cases hpool : (s.transportAt n).pool with
    | none => exact Transport.closeIdle_of_pool_none hpool
    | some pool => exact Transport.closeIdle_of_no_idle hpool (hbusy pool hpool)

end TezosNode
