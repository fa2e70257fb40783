import EntityProvider.RetryLoop

/-!
# The life of the pooled client

A call of `initialize` or `client` that succeeds should leave a client in the pool, further
calls should use it, and after `cleanup` the pool should be as good as new: `PoolReused`, for
any sequence of calls.

The pool is a cell that is set once, and `cleanup` empties the cell but cannot unset it.
`initialize` sets the cell, and `client` looks whether it is set; neither puts a client into
a cell that is set and empty, so an emptied pool stays empty forever
(`pool_of_emptied`).  A run keeps the pool in use exactly if none of its cleanups finds
the cell set (`poolReused_iff`).
-/

namespace EntityProvider.AxKube.Client

open EntityProvider.Configuration (KubeSettings)

/-! ## Runs -/

/-- A call, with what its connection attempts end in. -/
inductive Op (C E : Type) where
  | initializing (outcome : Except E C)
  | connecting (settings : KubeSettings) (outcomes : ℕ → Except E C) (draws : ℕ → UInt64)
  | cleaning

section Runs

variable {C E : Type}

/-- The pool that a call leaves. -/
def Op.pool (op : Op C E) (pool : Pool C) : Pool C :=
  match op with
  | .initializing outcome => (initializeClient outcome pool).pool
  | .connecting settings outcomes draws => (client settings outcomes draws pool).pool
  | .cleaning => (cleanup pool : Call C E Unit).pool

/-- Is it a call of `initialize` or `client` that returns `Ok`? -/
def Op.Succeeds (op : Op C E) (pool : Pool C) : Prop :=
  match op with
  | .initializing outcome => (initializeClient outcome pool).ending = .ok ()
  | .connecting settings outcomes draws =>
      ∃ value, (client settings outcomes draws pool).ending = .ok value
  | .cleaning => False

/-- The pool after a run of calls, from the unset cell. -/
def poolAfter (ops : List (Op C E)) : Pool C := ops.foldl (fun pool op => op.pool pool) .unset

/-- **The pool is reused** after a run of calls. -/
structure PoolReused (ops : List (Op C E)) : Prop where
  /-- After a success, and without a cleanup since, every call returns the pooled client and
  does not try to connect. -/
  reused : ∀ before op later, ops = before ++ op :: later → op.Succeeds (poolAfter before) →
    Op.cleaning ∉ later →
    ∃ pooled, (poolAfter ops).pooled = some pooled ∧
      ∀ settings (outcomes : ℕ → Except E C) draws,
        client settings outcomes draws (poolAfter ops) = ⟨[], .ok pooled, poolAfter ops⟩
  /-- After a cleanup, and without a success since, the pool can be initialized. -/
  renewed : ∀ before later, ops = before ++ .cleaning :: later →
    (∀ middle op rest, later = middle ++ op :: rest →
      ¬ op.Succeeds (poolAfter (before ++ .cleaning :: middle))) →
    ∀ connection : C,
      (initializeClient (.ok connection : Except E C) (poolAfter ops)).ending = .ok ()

/-- No cleanup of the run finds the cell set. -/
def CleansUnset (ops : List (Op C E)) : Prop :=
  ∀ before later, ops = before ++ .cleaning :: later → poolAfter before = .unset

/-! ## One call -/

theorem poolAfter_concat (ops : List (Op C E)) (op : Op C E) :
    poolAfter (ops ++ [op]) = op.pool (poolAfter ops) := by
  rw [poolAfter, List.foldl_concat]
  rfl

/-- On a cell that is not set, a call that succeeds pools a client, and any other call
changes nothing. -/
theorem pool_unset_cases (op : Op C E) :
    (op.Succeeds .unset ∧ ∃ pooled, op.pool .unset = .cell (some pooled)) ∨
      (¬ op.Succeeds .unset ∧ op.pool .unset = .unset) := by
  cases op with
  | initializing outcome =>
      cases outcome with
      | ok connection => exact Or.inl ⟨rfl, connection, rfl⟩
      | error why => exact Or.inr ⟨by simp [Op.Succeeds, initializeClient], rfl⟩
  | connecting settings outcomes draws =>
      rcases client_cases settings outcomes draws
          (rfl : (Pool.unset : Pool C).pooled = none) with
        ⟨delays, connection, hcall⟩ | ⟨delays, why, hcall⟩
      · refine Or.inl ⟨⟨connection, by rw [hcall]; rfl⟩, connection, ?_⟩
        rw [Op.pool, hcall]
        rfl
      · refine Or.inr ⟨?_, by rw [Op.pool, hcall]; rfl⟩
        rintro ⟨value, hvalue⟩
        rw [hcall] at hvalue
        exact absurd hvalue (by simp [Call.after, giveUp])
  | cleaning => exact Or.inr ⟨id, rfl⟩

/-- A pooled client stays, until a cleanup. -/
theorem pool_of_pooled {op : Op C E} (hop : op ≠ .cleaning) (pooled : C) :
    op.pool (.cell (some pooled)) = .cell (some pooled) := by
  cases op with
  | initializing outcome => cases outcome <;> rfl
  | connecting settings outcomes draws => rfl
  | cleaning => exact absurd rfl hop

/-- **An emptied cell stays empty**, whatever is called. -/
theorem pool_of_emptied (op : Op C E) : op.pool (.cell none) = .cell none := by
  cases op with
  | initializing outcome => cases outcome <;> rfl
  | connecting settings outcomes draws =>
      rcases client_cases settings outcomes draws
          (rfl : (Pool.cell none : Pool C).pooled = none) with
        ⟨delays, connection, hcall⟩ | ⟨delays, why, hcall⟩
      · rw [Op.pool, hcall]
        rfl
      · rw [Op.pool, hcall]
        rfl
  | cleaning => rfl

/-! ## Runs of calls -/

/-- If no cleanup finds the cell set, the cell is never empty. -/
theorem poolAfter_of_cleansUnset {ops : List (Op C E)} (hclean : CleansUnset ops) :
    poolAfter ops = .unset ∨ ∃ pooled, poolAfter ops = .cell (some pooled) := by
  induction ops using List.reverseRecOn with
  | nil => exact Or.inl rfl
  | append_singleton ops op ih =>
      have hbefore : CleansUnset ops := by
        rintro before later rfl
        exact hclean before (later ++ [op]) (by simp)
      rw [poolAfter_concat]
      rcases ih hbefore with hunset | ⟨pooled, hpooled⟩
      · rw [hunset]
        rcases pool_unset_cases op with ⟨-, hpooled⟩ | ⟨-, hstill⟩
        · exact Or.inr hpooled
        · exact Or.inl hstill
      · rw [hpooled]
        refine Or.inr ⟨pooled, pool_of_pooled ?_ pooled⟩
        rintro rfl
        exact absurd ((hclean ops [] rfl).symm.trans hpooled) (by simp)

/-- A run with a cell that was set had a client to set it with. -/
theorem exists_of_poolAfter {ops : List (Op C E)} {inner : Option C}
    (hset : poolAfter ops = .cell inner) : Nonempty C := by
  induction ops using List.reverseRecOn generalizing inner with
  | nil => exact absurd hset (by simp [poolAfter])
  | append_singleton ops op ih =>
      cases hpool : poolAfter ops with
      | cell before => exact ih hpool
      | unset =>
          rw [poolAfter_concat, hpool] at hset
          rcases pool_unset_cases op with ⟨-, pooled, -⟩ | ⟨-, hstill⟩
          · exact ⟨pooled⟩
          · exact absurd (hset.symm.trans hstill) (by simp)

/-- A client that is pooled at some point of a run is pooled until a cleanup. -/
theorem poolAfter_append_of_pooled {before later : List (Op C E)} {pooled : C}
    (hpooled : poolAfter before = .cell (some pooled)) (hlater : Op.cleaning ∉ later) :
    poolAfter (before ++ later) = .cell (some pooled) := by
  induction later using List.reverseRecOn with
  | nil => rwa [List.append_nil]
  | append_singleton later op ih =>
      rw [List.mem_append, not_or, List.mem_singleton] at hlater
      rw [← List.append_assoc, poolAfter_concat, ih hlater.1]
      exact pool_of_pooled (Ne.symm hlater.2) pooled

/-- Without a success, a cell that is not set stays so. -/
theorem poolAfter_append_of_unset {before later : List (Op C E)}
    (hunset : poolAfter before = .unset)
    (hfails : ∀ middle op rest, later = middle ++ op :: rest →
      ¬ op.Succeeds (poolAfter (before ++ middle))) :
    poolAfter (before ++ later) = .unset := by
  induction later using List.reverseRecOn with
  | nil => rwa [List.append_nil]
  | append_singleton later op ih =>
      have hlater : poolAfter (before ++ later) = .unset := by
        refine ih ?_
        rintro middle other rest rfl
        exact hfails middle other (rest ++ [op]) (by simp)
      rw [← List.append_assoc, poolAfter_concat, hlater]
      rcases pool_unset_cases op with ⟨hsucceeds, -⟩ | ⟨-, hstill⟩
      · exact absurd hsucceeds (hlater ▸ hfails later op [] rfl)
      · exact hstill

theorem CleansUnset.of_prefix {before ops : List (Op C E)} (hclean : CleansUnset ops)
    (hstart : before <+: ops) : CleansUnset before := by
  obtain ⟨later, rfl⟩ := hstart
  rintro first rest rfl
  exact hclean first (rest ++ later) (by simp)

/-- If no cleanup finds the cell set, the pool is reused. -/
theorem poolReused_of_cleansUnset {ops : List (Op C E)} (hclean : CleansUnset ops) :
    PoolReused ops := by
  constructor
  · rintro before op later rfl hsucceeds hlater
    have hbefore := poolAfter_of_cleansUnset (hclean.of_prefix ⟨op :: later, rfl⟩)
    have hpooled : ∃ pooled, poolAfter (before ++ [op]) = .cell (some pooled) := by
      rw [poolAfter_concat]
      rcases hbefore with hunset | ⟨pooled, hpooled⟩
      · rw [hunset] at hsucceeds ⊢
        exact ((pool_unset_cases op).resolve_right fun hfails => hfails.1 hsucceeds).2
      · rw [hpooled]
        refine ⟨pooled, pool_of_pooled ?_ pooled⟩
        rintro rfl
        exact hsucceeds
    obtain ⟨pooled, hpooled⟩ := hpooled
    have hafter := poolAfter_append_of_pooled hpooled hlater
    rw [List.append_assoc, List.singleton_append] at hafter
    rw [hafter]
    exact ⟨pooled, rfl, fun _ _ _ => rfl⟩
  · rintro before later rfl hfails connection
    have hunset : poolAfter (before ++ [.cleaning]) = .unset := by
      rw [poolAfter_concat, hclean before later rfl]
      rfl
    have hafter := poolAfter_append_of_unset hunset fun middle op rest heq => by
      have hop := hfails middle op rest heq
      rwa [List.append_assoc, List.singleton_append]
    rw [List.append_assoc, List.singleton_append] at hafter
    rw [hafter]
    rfl

/-- **When the pool is reused.**  Throughout a run, exactly if none of its cleanups finds the
cell set. -/
theorem poolReused_iff (ops : List (Op C E)) :
    (∀ before, before <+: ops → PoolReused before) ↔ CleansUnset ops := by
  constructor
  · rintro hreused before later rfl
    cases hpool : poolAfter before with
    | unset => rfl
    | cell inner =>
        -- right after the cleanup, the set cell turns every `initialize` down
        obtain ⟨connection⟩ := exists_of_poolAfter hpool
        have hstart : before ++ [.cleaning] <+: before ++ .cleaning :: later :=
          ⟨later, by simp⟩
        have hrenewed := (hreused _ hstart).renewed before [] rfl
          (fun middle op rest heq => absurd heq (by simp)) connection
        rw [poolAfter_concat, hpool] at hrenewed
        exact absurd hrenewed (by simp [Op.pool, cleanup, initializeClient])
  · intro hclean before hstart
    exact poolReused_of_cleansUnset (hclean.of_prefix hstart)

end Runs

/-! ## A client that is created again -/

/-- The pool is initialized and cleaned up. -/
def cleanedUp : List (Op ℕ String) := [.initializing (.ok 7), .cleaning]

/-- **The pool cannot be initialized again.** -/
theorem not_poolReused_cleanedUp : ¬ ∀ before, before <+: cleanedUp → PoolReused before := by
  intro hreused
  have hrenewed := (hreused cleanedUp List.prefix_rfl).renewed [.initializing (.ok 7)] [] rfl
    (fun middle op rest heq => absurd heq (by simp)) 8
  exact absurd hrenewed (by decide)

end EntityProvider.AxKube.Client
