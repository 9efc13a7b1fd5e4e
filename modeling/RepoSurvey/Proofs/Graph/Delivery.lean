import RepoSurvey.Graph.Outlet
import RepoSurvey.Proofs.Graph.RoundTrip
import RepoSurvey.Proofs.Text.Order

/-!
# Writing to outlets

An outlet is offered the bytes of a graph from the first to the last.  Either it takes all of them, or
writing ends with the first offer that it does not take anything of (`writeTo_delivers`).  So what an
outlet of limited size holds in the end is the text, if that fits, and else a proper start of it.

An outlet may take an offer bit by bit, and `Outlet.Delivers` puts the bits of all pieces together.
-/

namespace RepoSurvey

theorem bytes_append (first others : String) :
    bytes (first ++ others) = bytes first ++ bytes others := by
  rw [bytes_eq_flatMap, bytes_eq_flatMap, bytes_eq_flatMap, String.toList_append,
    List.flatMap_append]

end RepoSurvey

namespace RepoSurvey.Graph

/-- Bytes were written to a place with a limit. `held` tells which bytes it has taken. -/
structure Fills {σ ε : Type} (limit : Nat) (bytes : List UInt8) (held : σ → List UInt8)
    (result : EStateM.Result ε σ Unit) : Prop where
  succeeds_iff : (∃ last, result = .ok () last) ↔ bytes.length ≤ limit
  holds_whole : ∀ last, result = .ok () last → held last = bytes
  /-- After a failure a start of the bytes is there, and not all of them. -/
  holds_start : ∀ error last, result = .error error last →
    held last <+: bytes ∧ (held last).length < bytes.length

namespace Fills

variable {σ ε : Type} {limit : Nat} {bytes : List UInt8} {held : σ → List UInt8} {last : σ}

theorem of_ok (fits : bytes.length ≤ limit) (held_eq : held last = bytes) :
    Fills limit bytes held (.ok () last : EStateM.Result ε σ Unit) where
  succeeds_iff := ⟨fun _ => fits, fun _ => ⟨last, rfl⟩⟩
  holds_whole _ same := by
    cases same
    exact held_eq
  holds_start _ _ same := by cases same

theorem of_error {error : ε} (tooLong : limit < bytes.length) (isStart : held last <+: bytes)
    (isShorter : (held last).length < bytes.length) :
    Fills limit bytes held (.error error last : EStateM.Result ε σ Unit) where
  succeeds_iff := by
    refine ⟨?_, fun fits => absurd fits (Nat.not_le.mpr tooLong)⟩
    rintro ⟨_, same⟩
    cases same
  holds_whole _ same := by cases same
  holds_start _ _ same := by
    cases same
    exact ⟨isStart, isShorter⟩

end Fills

/-! ## Offers to an outlet -/

namespace Outlet

variable {σ : Type}

/-- Bytes are taken one offer after the other, some of each offer. -/
inductive Takes (outlet : Outlet σ) : σ → List UInt8 → σ → Prop
  | done (state : σ) : Takes outlet state [] state
  | more {state next last : σ} {offered others : List UInt8} {count : Nat}
      (taken : outlet.offer offered state = (.ok count, next)) (isSome : 0 < count)
      (takes : Takes outlet next others last) :
      Takes outlet state (offered.take count ++ others) last

/-- An outlet takes nothing of an offer. -/
def Refuses (outlet : Outlet σ) (state : σ) (offered : List UInt8) (after : σ) :
    OutletFailure → Prop
  | .refused reason => outlet.offer offered state = (.error reason, after)
  | .nothingTaken => outlet.offer offered state = (.ok 0, after)

/-- What comes of writing some bytes: all of them are taken, or there is an offer of which nothing is
taken, and it is the last one. -/
inductive Delivers (outlet : Outlet σ) (start : σ) (bytes : List UInt8) :
    EStateM.Result WriteError σ Unit → Prop
  | whole {last : σ} (takes : outlet.Takes start bytes last) : Delivers outlet start bytes (.ok () last)
  | broken {middle last : σ} {taken offered : List UInt8} (others : List UInt8)
      (failure : OutletFailure) (bytes_eq : taken ++ (offered ++ others) = bytes)
      (notEmpty : offered ≠ [])
      (takes : outlet.Takes start taken middle) (refuses : outlet.Refuses middle offered last failure) :
      Delivers outlet start bytes (.error (.io failure) last)

theorem Takes.append {outlet : Outlet σ} {state middle last : σ} {first others : List UInt8}
    (takes : outlet.Takes state first middle) (takesOthers : outlet.Takes middle others last) :
    outlet.Takes state (first ++ others) last := by
  induction takes with
  | done => exact takesOthers
  | more taken isSome _ ih =>
      rw [List.append_assoc]
      exact .more taken isSome (ih takesOthers)

namespace Delivers

variable {outlet : Outlet σ} {start middle : σ} {first others : List UInt8}
  {result : EStateM.Result WriteError σ Unit}

/-- What comes of the rest, after a start is taken. -/
theorem after_taken (takes : outlet.Takes start first middle)
    (delivers : outlet.Delivers middle others result) :
    outlet.Delivers start (first ++ others) result := by
  cases delivers with
  | whole takesOthers => exact .whole (takes.append takesOthers)
  | broken rest failure bytes_eq notEmpty takesOthers refuses =>
      refine .broken rest failure ?_ notEmpty (takes.append takesOthers) refuses
      rw [List.append_assoc, bytes_eq]

/-- Nothing of the rest is offered after a failure. -/
theorem before_rest {failure : WriteError} {last : σ}
    (delivers : outlet.Delivers start first (.error failure last)) (others : List UInt8) :
    outlet.Delivers start (first ++ others) (.error failure last) := by
  cases delivers with
  | broken rest failure bytes_eq notEmpty takes refuses =>
      refine .broken (rest ++ others) failure ?_ notEmpty takes refuses
      rw [← bytes_eq, List.append_assoc, List.append_assoc]

end Delivers

theorem writeAll_delivers (outlet : Outlet σ) (bytes : List UInt8) (state : σ) :
    outlet.Delivers state bytes (outlet.writeAll bytes state) := by
  induction length_eq : bytes.length using Nat.strongRecOn generalizing bytes state with
  | ind length ih =>
      subst length_eq
      rw [writeAll.eq_def]
      cases bytes with
      | nil => exact .whole (.done state)
      | cons first rest =>
          dsimp only
          split
          · rename_i reason after refused
            exact .broken [] (.refused reason) (List.append_nil _) (List.cons_ne_nil _ _)
              (.done state) refused
          · rename_i after refused
            exact .broken [] .nothingTaken (List.append_nil _) (List.cons_ne_nil _ _)
              (.done state) refused
          · rename_i count after taken
            have isShorter : (rest.drop count).length < (first :: rest).length := by
              rw [List.length_drop, List.length_cons]
              omega
            have delivers := ih _ isShorter (rest.drop count) after rfl
            have takes := Takes.more taken (Nat.succ_pos count) (.done after)
            have delivered := delivers.after_taken takes
            rwa [List.append_nil, List.take_succ_cons, List.cons_append,
              List.take_append_drop] at delivered

/-- Pieces are delivered one after the other. -/
theorem forM_delivers (outlet : Outlet σ) (pieces : List String) (state : σ) :
    outlet.Delivers state (bytes (String.join pieces)) (forM pieces outlet.put state) := by
  induction pieces generalizing state with
  | nil => exact .whole (.done state)
  | cons piece rest ih =>
      have delivers : outlet.Delivers state (bytes piece) (outlet.put piece state) :=
        outlet.writeAll_delivers (bytes piece) state
      rw [List.forM_cons, String.join_cons, bytes_append]
      change outlet.Delivers state _
        (EStateM.bind (outlet.put piece) (fun _ => forM rest outlet.put) state)
      rw [EStateM.bind]
      cases written : outlet.put piece state with
      | ok _ middle =>
          rw [written] at delivers
          cases delivers with
          | whole takes => exact (ih middle).after_taken takes
      | error failure last =>
          rw [written] at delivers
          exact delivers.before_rest _

/-! ## Outlets of limited size -/

/-- An outlet takes bytes up to a limit and then fails.  `held` tells which bytes it has taken. -/
structure HoldsUpTo (outlet : Outlet σ) (limit : Nat) (held : σ → List UInt8) : Prop where
  /-- What fits is not refused. -/
  takes : ∀ offered state, offered ≠ [] → (held state).length + offered.length ≤ limit →
    ∃ count after, outlet.offer offered state = (.ok count, after) ∧ 0 < count
  /-- The first bytes of an offer are taken, and never more than there is room for. -/
  holds : ∀ offered state count after, outlet.offer offered state = (.ok count, after) →
    count ≤ offered.length ∧ count ≤ limit - (held state).length ∧
      held after = held state ++ offered.take count
  /-- What is refused is not taken. -/
  refuses : ∀ offered state reason after, outlet.offer offered state = (.error reason, after) →
    held after = held state

namespace HoldsUpTo

variable {outlet : Outlet σ} {limit : Nat} {held : σ → List UInt8}
  (holdsUpTo : outlet.HoldsUpTo limit held)

include holdsUpTo

theorem held_of_takes {start last : σ} {taken : List UInt8} (takes : outlet.Takes start taken last)
    (isRoom : (held start).length ≤ limit) :
    held last = held start ++ taken ∧ (held last).length ≤ limit := by
  induction takes with
  | done => exact ⟨(List.append_nil _).symm, isRoom⟩
  | @more state next last offered others count taken _ _ ih =>
      obtain ⟨_, countLe, held_eq⟩ := holdsUpTo.holds offered state count next taken
      have stillRoom : (held next).length ≤ limit := by
        rw [held_eq, List.length_append, List.length_take]
        omega
      obtain ⟨last_eq, lastLe⟩ := ih stillRoom
      exact ⟨by rw [last_eq, held_eq, List.append_assoc], lastLe⟩

theorem held_of_refuses {state after : σ} {offered : List UInt8} {failure : OutletFailure}
    (refuses : outlet.Refuses state offered after failure) : held after = held state := by
  cases failure with
  | refused reason => exact holdsUpTo.refuses _ _ _ _ refuses
  | nothingTaken =>
      obtain ⟨_, _, held_eq⟩ := holdsUpTo.holds _ _ _ _ refuses
      rw [held_eq, List.take_zero, List.append_nil]

/-- Only what does not fit is refused. -/
theorem lt_of_refuses {state after : σ} {offered : List UInt8} {failure : OutletFailure}
    (notEmpty : offered ≠ []) (refuses : outlet.Refuses state offered after failure) :
    limit < (held state).length + offered.length := by
  by_contra fits
  obtain ⟨count, next, taken, isSome⟩ := holdsUpTo.takes offered state notEmpty (Nat.not_lt.mp fits)
  cases failure with
  | refused reason =>
      rw [Refuses, taken] at refuses
      cases refuses
  | nothingTaken =>
      rw [Refuses, taken] at refuses
      cases refuses
      exact Nat.lt_irrefl 0 isSome

/-- What an empty outlet of limited size holds in the end. -/
theorem fills_of_delivers {start : σ} {bytes : List UInt8}
    {result : EStateM.Result WriteError σ Unit} (isEmpty : held start = [])
    (delivers : outlet.Delivers start bytes result) : Fills limit bytes held result := by
  have isRoom : (held start).length ≤ limit := by
    rw [isEmpty]
    exact Nat.zero_le limit
  cases delivers with
  | whole takes =>
      obtain ⟨held_eq, heldLe⟩ := holdsUpTo.held_of_takes takes isRoom
      rw [isEmpty, List.nil_append] at held_eq
      rw [held_eq] at heldLe
      exact .of_ok heldLe held_eq
  | @broken middle last taken offered others failure bytes_eq notEmpty takes refuses =>
      obtain ⟨middle_eq, _⟩ := holdsUpTo.held_of_takes takes isRoom
      rw [isEmpty, List.nil_append] at middle_eq
      have tooLong := holdsUpTo.lt_of_refuses notEmpty refuses
      rw [middle_eq] at tooLong
      have held_eq : held last = taken := (holdsUpTo.held_of_refuses refuses).trans middle_eq
      have length_eq := congrArg List.length bytes_eq
      rw [List.length_append, List.length_append] at length_eq
      have offeredPos := List.length_pos_of_ne_nil notEmpty
      refine .of_error (by omega) ?_ ?_
      · rw [held_eq]
        exact ⟨offered ++ others, bytes_eq⟩
      · rw [held_eq]
        omega

end HoldsUpTo

end Outlet

/-- The text of a graph is delivered to an outlet. -/
theorem writeTo_delivers {σ : Type} (outlet : Outlet σ) (store : Store) (root : Value) (start : σ) :
    outlet.Delivers start (bytes (compactText store root)) (writeTo outlet store root start) := by
  obtain ⟨pieces, join_eq, writes⟩ := writeWith_eq_forM .compact store root
  have text_eq : compactText store root = String.join pieces := by
    rw [join_eq, compactText, renderWith, writeGraph_eq_put]
    exact String.empty_append
  rw [text_eq, writeTo, writes]
  exact outlet.forM_delivers pieces start

/-! ## Sinks of limited size -/

theorem fitting_prefix (room : Nat) (characters : List Char) :
    fitting room characters <+: characters := by
  induction characters generalizing room with
  | nil => exact List.prefix_refl []
  | cons character rest ih =>
      rw [fitting]
      split
      · exact (List.prefix_cons_inj character).mpr (ih _)
      · exact List.nil_prefix

theorem utf8ByteSize_fitting_le (room : Nat) (characters : List Char) :
    (String.ofList (fitting room characters)).utf8ByteSize ≤ room := by
  induction characters generalizing room with
  | nil => exact Nat.zero_le room
  | cons character rest ih =>
      rw [fitting]
      split
      · have restLe := ih (room - character.utf8Size)
        rw [String.ofList_cons, String.utf8ByteSize_append, String.utf8ByteSize_singleton]
        omega
      · exact Nat.zero_le room

/-- A sink of limited size holds the text of a graph, or as many characters as fit. -/
theorem writeLimited_fills (limit : Nat) (store : Store) (root : Value) :
    Fills limit (bytes (compactText store root)) (fun sink => bytes sink.text)
      (writeLimited limit store root) := by
  have text_eq : compactText store root = ((unfolding store root).written .compact).1 := by
    rw [compactText, renderWith, writeGraph_eq_put]
    exact String.empty_append
  rw [writeLimited, writeGraph_eq_put, ← text_eq]
  generalize compactText store root = text
  change Fills limit (bytes text) (fun sink => bytes sink.text) (put text { room := some limit })
  rw [put]
  dsimp only
  split
  · rename_i fits
    exact .of_ok fits (congrArg bytes String.empty_append)
  · rename_i tooLong
    obtain ⟨others, characters_eq⟩ := fitting_prefix limit text.toList
    have start_eq : bytes text =
        bytes (String.ofList (fitting limit text.toList)) ++ bytes (String.ofList others) := by
      rw [← bytes_append, ← String.ofList_append, characters_eq, String.ofList_toList]
    have isShort := utf8ByteSize_fitting_le limit text.toList
    refine .of_error (Nat.not_le.mp tooLong) ?_ ?_
    · rw [start_eq, String.empty_append]
      exact List.prefix_append _ _
    · rw [String.empty_append]
      change (String.ofList (fitting limit text.toList)).utf8ByteSize < text.utf8ByteSize
      omega

/-! ## The end of writing -/

/-- Writing a graph to an outlet goes on until all of its text is taken or something is refused, and what is
refused first is the last thing that is offered.  An outlet that takes bytes up to a limit, and a sink of
that size, hold the whole text if it fits, and otherwise a proper start of it. -/
theorem writing_ends_at_first_refusal {σ : Type} {outlet : Outlet σ} {limit : Nat}
    {held : σ → List UInt8} (holdsUpTo : outlet.HoldsUpTo limit held) {start : σ}
    (isEmpty : held start = []) (store : Store) (root : Value) :
    outlet.Delivers start (bytes (compactText store root)) (writeTo outlet store root start) ∧
      Fills limit (bytes (compactText store root)) held (writeTo outlet store root start) ∧
        Fills limit (bytes (compactText store root)) (fun sink => bytes sink.text)
          (writeLimited limit store root) := by
  have delivers := writeTo_delivers outlet store root start
  exact ⟨delivers, holdsUpTo.fills_of_delivers isEmpty delivers, writeLimited_fills limit store root⟩

/-- An outlet that takes two bytes of an offer at most. -/
def sippingOutlet (limit : Nat) : Outlet (List UInt8) where
  offer offered := fun held =>
    let count := min 2 (min offered.length (limit - held.length))
    if count = 0 then (.error "no space left", held) else (.ok count, held ++ offered.take count)

theorem sippingOutlet_holdsUpTo (limit : Nat) : (sippingOutlet limit).HoldsUpTo limit id where
  takes offered state notEmpty fits := by
    have offeredPos := List.length_pos_of_ne_nil notEmpty
    have isRoom : state.length + offered.length ≤ limit := fits
    have countPos : min 2 (min offered.length (limit - state.length)) ≠ 0 := by omega
    exact ⟨_, _, if_neg countPos, Nat.pos_of_ne_zero countPos⟩
  holds offered state count after taken := by
    dsimp only [sippingOutlet] at taken
    split at taken
    · cases taken
    · cases taken
      exact ⟨by omega, by simp only [id]; omega, rfl⟩
  refuses offered state reason after refused := by
    dsimp only [sippingOutlet] at refused
    split at refused
    · cases refused
      rfl
    · cases refused

/-- The outlet is full in the middle of a key. -/
theorem writing_knot_ends_at_first_refusal :
    (sippingOutlet 47).HoldsUpTo 47 id ∧ id ([] : List UInt8) = [] ∧
      (sippingOutlet 47).Delivers [] (bytes (compactText knot (.container 0)))
          (writeTo (sippingOutlet 47) knot (.container 0) []) ∧
        Fills 47 (bytes (compactText knot (.container 0))) id
            (writeTo (sippingOutlet 47) knot (.container 0) []) ∧
          Fills 47 (bytes (compactText knot (.container 0))) (fun sink => bytes sink.text)
            (writeLimited 47 knot (.container 0)) :=
  ⟨sippingOutlet_holdsUpTo 47, rfl,
    writing_ends_at_first_refusal (sippingOutlet_holdsUpTo 47) rfl knot (.container 0)⟩

end RepoSurvey.Graph
