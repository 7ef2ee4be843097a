import ReplDriver.Proofs.Server.Failing

/-!
# Requests that cannot be carried out

An operation does not succeed if its fields are missing or cannot be used, or if there is no
expression or no file where they point to.

* `Request.Faulty`: what can be wrong with the fields of a request.
* `Request.Faulty.refuses`: such an operation fails, or is answered with the status of a failure.
-/

namespace ReplDriver.Request

open Op Protocol Server World

/-! ## Faults -/

theorem Asks.operation? {request : Json} {word : String} (h : Asks request word) :
    operation? (fieldOr request "op" .null) = operations.lookup word := by
  rw [h, Request.operation?, String.ofList_toList]

/-- The fields that operations cannot do without. -/
def needed : List (String × Text) :=
  [("eval-region", "text"), ("eval-region", "start"), ("eval-region", "end"), ("eval-last", "text"),
   ("boundary", "text"), ("load-file", "file-path")]

/-- The fields in which operations take nothing but a text. -/
def texts : List (String × Text) :=
  [("eval", "code"), ("transform", "code"), ("eval-region", "text"), ("eval-last", "text"),
   ("complete", "text"), ("load-file", "file-path")]

/-- The fields that operations read as integers. -/
def integers : List (String × Text) :=
  [("eval-region", "start"), ("eval-region", "end"), ("eval-last", "point"), ("boundary", "point")]

/-- Where the expression before a cursor begins, in a text or in a value in place of one. -/
def beginning (v : Json) (point : Int) : Except Failure Nat :=
  match v with
  | .text s => Expression.boundary s point
  | v => boundaryIn v point

/-- In a world, the fields of a request keep its operation from being carried out. -/
inductive Faulty (w : World) (request : Json) : Prop
  | absent {word : String} {name : Text} (hfield : (word, name) ∈ needed) (hop : Asks request word)
      (h : request.member? name = none) : Faulty w request
  | noText {word : String} {name : Text} (hfield : (word, name) ∈ texts) (hop : Asks request word)
      (h : HoldsNoText request name) : Faulty w request
  | noInteger {word : String} {name : Text} (hfield : (word, name) ∈ integers)
      (hop : Asks request word) (h : HoldsNoInteger request name) : Faulty w request
  /-- The token to complete is no text. -/
  | noPrefix (hop : Asks request "complete") (hcursor : request.member? "text" = none)
      (h : HoldsNoText request "prefix") : Faulty w request
  /-- The cursor to complete at is no integer. -/
  | noCursor {v : Json} (hop : Asks request "complete") (hcursor : request.member? "text" = some v)
      (h : HoldsNoInteger request "point") : Faulty w request
  /-- An expression is looked for in what is neither a text nor a list. -/
  | noPieces {v : Json} (hop : Asks request "boundary") (hv : request.member? "text" = some v)
      (htext : ∀ t, v ≠ .text t) (hlist : ∀ pieces, v ≠ .list pieces) : Faulty w request
  /-- No expression ends at the cursor, or the cursor is outside the text. -/
  | noExpression {v : Json} {n : Int} {f : Failure}
      (hop : Asks request "eval-last" ∨ Asks request "boundary")
      (hv : request.member? "text" = some v) (hpoint : point request v = .ok n)
      (h : beginning v n = .error f) : Faulty w request
  /-- The file is not there or holds no text. Diagnostics may write to a file, and so to this one:
  they do not go to any. -/
  | noFile {path : Text} {f : Failure} (hop : Asks request "load-file")
      (hpath : request.member? "file-path" = some (.text path)) (hjournal : w.journal.file = none)
      (h : w.machine.readText (w.machine.absolute path).text = .error f) : Faulty w request

/-- What is in the tables are fields of operations. -/
theorem known_fields : ∀ field ∈ needed ++ texts ++ integers,
    (operations.lookup field.1).isSome = true := by decide

/-- Only what belongs to an operation can be wrong with a request. -/
theorem Faulty.known {w : World} {request : Json} (h : Faulty w request) :
    (operation? (fieldOr request "op" .null)).isSome = true := by
  cases h with
  | absent hfield hop =>
    rw [hop.operation?]
    exact known_fields _ (List.mem_append_left _ (List.mem_append_left _ hfield))
  | noText hfield hop =>
    rw [hop.operation?]
    exact known_fields _ (List.mem_append_left _ (List.mem_append_right _ hfield))
  | noInteger hfield hop =>
    rw [hop.operation?]
    exact known_fields _ (List.mem_append_right _ hfield)
  | noPrefix hop => rw [hop.operation?]; rfl
  | noCursor hop => rw [hop.operation?]; rfl
  | noPieces hop => rw [hop.operation?]; rfl
  | noExpression hop => obtain hop | hop := hop <;> rw [hop.operation?] <;> rfl
  | noFile hop => rw [hop.operation?]; rfl

/-! ## Refusals -/

/-- In a state, an operation on a workspace does not succeed: it fails, or is answered with the
status of a failure. -/
def Refuses (act : Op Seat Response) (s : Seat) : Prop :=
  ∀ response, (act s).1 = .ok response → IsError response

section
variable {α : Type} {request : Json} {s : Seat}

theorem refuses_bind {act : Op Seat α} {k : α → Op Seat Response} (hk : ∀ a s', Refuses (k a) s') :
    Refuses (act >>= k) s := by
  intro response hok
  rcases hact : act s with ⟨f | a, s'⟩
  · rw [bind_error hact] at hok
    cases hok
  · rw [bind_ok hact] at hok
    exact hk a s' response hok

theorem refuses_throw (f : Failure) : Refuses (throw f) s := fun _ hok => by cases hok

/-- What follows on an outcome follows on its value alone. -/
theorem refuses_next {outcome : Except Failure α} {k : α → Op Seat Response}
    (hk : ∀ a, outcome = .ok a → Refuses (k a) s) : Refuses (Op.ofExcept outcome >>= k) s := by
  cases outcome with
  | ok a => exact hk a rfl
  | error f => exact refuses_throw f

/-- Nothing follows on an outcome that is a failure. -/
theorem refuses_never {outcome : Except Failure α} {k : α → Op Seat Response}
    (h : ∀ a, outcome ≠ .ok a) : Refuses (Op.ofExcept outcome >>= k) s :=
  refuses_next fun a ha => (h a ha).elim

theorem refuses_reporting {p : Failure → Bool} {act : Op Seat Response} (h : Refuses act s) :
    Refuses (reporting p act) s := by
  intro response hok
  obtain heq | ⟨f, other, s', -, hother, heq⟩ := Op.answering_cases act _ s
  · rw [reporting, heq] at hok
    exact h response hok
  · rw [reporting, heq] at hok
    split at hother
    · cases hother
      cases hok
      rfl
    · cases hother

theorem refuses_notCode (kind : Text) : Refuses (get >>= fun s : Seat =>
    Op.ofExcept (notCode kind s.workspace.settings.transformModules)) s :=
  fun _ hok => by cases hok

theorem field_absent {name : Text} (h : request.member? name = none) (v : Json) :
    field request name ≠ .ok v := by
  rw [field, h]
  exact nofun

theorem field_of_member {name : Text} {v v' : Json} (h : request.member? name = some v)
    (hv : field request name = .ok v') : v' = v := by
  rw [field, h] at hv
  cases hv
  rfl

/-- An offset is not read from a field that is absent or holds no integer. -/
theorem offset_never {name : Text}
    (h : request.member? name = none ∨ HoldsNoInteger request name) (n : Int) :
    (field request name >>= integer) ≠ .ok n := by
  obtain habsent | ⟨v, f, hv, hf⟩ := h
  · rw [field, habsent]
    exact nofun
  · rw [field, hv]
    change integer v ≠ _
    rw [hf]
    exact nofun

theorem point_never (h : HoldsNoInteger request "point") (v : Json) (n : Int) :
    point request v ≠ .ok n := by
  obtain ⟨v', f, hv', hf⟩ := h
  unfold point
  rcases length v with g | k
  · exact nofun
  · change integer (fieldOr request "point" (.int k)) ≠ _
    rw [fieldOr, hv', Option.getD_some, hf]
    exact nofun

/-! ## Operations -/

theorem refuses_eval (h : HoldsNoText request "code") : Refuses (eval request) s := by
  obtain ⟨v, hv, hno⟩ := h
  unfold eval
  split
  · next code hcode =>
    rw [fieldOr, hv] at hcode
    exact (hno code hcode).elim
  · exact refuses_notCode _

theorem refuses_transform (h : HoldsNoText request "code") : Refuses (transform request) s := by
  obtain ⟨v, hv, hno⟩ := h
  refine refuses_never fun code hcode => ?_
  rw [fieldOr, hv, Option.getD_some] at hcode
  cases v with
  | text t => exact hno t rfl
  | _ => cases hcode

theorem refuses_evalRegion
    (h : request.member? "text" = none ∨ HoldsNoText request "text" ∨
      (request.member? "start" = none ∨ HoldsNoInteger request "start") ∨
        (request.member? "end" = none ∨ HoldsNoInteger request "end")) :
    Refuses (evalRegion request) s := by
  rcases h with habsent | ⟨v, hv, hno⟩ | hstart | hend
  · exact refuses_never (field_absent habsent)
  -- what the text holds is looked at only after both offsets
  · refine refuses_next fun v' hv' => refuses_bind fun _ _ => refuses_bind fun _ _ => ?_
    cases field_of_member hv hv'
    split
    · next t => exact (hno t rfl).elim
    · exact refuses_notCode _
    · exact refuses_throw _
  · exact refuses_bind fun _ _ => refuses_never (offset_never hstart)
  · exact refuses_bind fun _ _ => refuses_bind fun _ _ => refuses_never (offset_never hend)

theorem refuses_evalLast
    (h : request.member? "text" = none ∨ HoldsNoText request "text" ∨
      HoldsNoInteger request "point" ∨ ∃ v n f, request.member? "text" = some v ∧
        point request v = .ok n ∧ beginning v n = .error f) :
    Refuses (evalLast request) s := by
  rcases h with habsent | ⟨v, hv, hno⟩ | hpoint | ⟨v, n, f, hv, hn, hnone⟩
  · exact refuses_never (field_absent habsent)
  · refine refuses_next fun v' hv' => refuses_bind fun _ _ => ?_
    cases field_of_member hv hv'
    split
    · next t => exact (hno t rfl).elim
    · exact refuses_reporting (refuses_bind fun _ _ => refuses_notCode _)
  · exact refuses_bind fun v _ => refuses_never (point_never hpoint v)
  · refine refuses_next fun v' hv' => refuses_next fun n' hn' => ?_
    cases field_of_member hv hv'
    rw [hn] at hn'
    cases hn'
    split
    · refine refuses_reporting ?_
      rw [Seat.sendLast, map_bind]
      refine refuses_never fun start hstart => ?_
      rw [beginning, hstart] at hnone
      cases hnone
    · exact refuses_reporting (refuses_bind fun _ _ => refuses_notCode _)

/-- A file is not loaded if no path is given, or if it cannot be read. -/
theorem refuses_loadFile
    (h : ∀ path, request.member? "file-path" = some (.text path) →
      ∃ f, s.world.machine.readText (s.world.machine.absolute path).text = .error f) :
    Refuses (loadFile request) s := by
  refine refuses_next fun path hpath => refuses_reporting ?_
  have hmember : request.member? "file-path" = some (.text path) := by
    rcases hv : request.member? "file-path" with _ | v
    · rw [field, hv] at hpath
      cases hpath
    · rw [field, hv] at hpath
      cases v with
      | text t =>
        cases hpath
        rfl
      | _ => cases hpath
  obtain ⟨f, hread⟩ := h path hmember
  -- the file is read before anything else is done
  rw [Seat.loadFile, map_bind]
  intro response hok
  rw [get_bind] at hok
  simp only [map_bind, hread] at hok
  cases hok

theorem refuses_boundary
    (h : request.member? "text" = none ∨ HoldsNoInteger request "point" ∨
      (∃ v, request.member? "text" = some v ∧ (∀ t, v ≠ .text t) ∧ ∀ pieces, v ≠ .list pieces) ∨
        ∃ v n f, request.member? "text" = some v ∧ point request v = .ok n ∧
          beginning v n = .error f) :
    Refuses (boundary request) s := by
  rcases h with habsent | hpoint | ⟨v, hv, htext, hlist⟩ | ⟨v, n, f, hv, hn, hnone⟩
  · exact refuses_never (field_absent habsent)
  · exact refuses_bind fun v _ => refuses_never (point_never hpoint v)
  · refine refuses_next fun v' hv' => refuses_bind fun n _ => ?_
    cases field_of_member hv hv'
    have hnever (start : Nat) : boundaryIn v n ≠ .ok start := by
      cases v with
      | text t => exact (htext t rfl).elim
      | list pieces => exact (hlist pieces rfl).elim
      | _ => exact nofun
    split
    · next t => exact (htext t rfl).elim
    · exact refuses_reporting (refuses_never hnever)
  · refine refuses_next fun v' hv' => refuses_next fun n' hn' => ?_
    cases field_of_member hv hv'
    rw [hn] at hn'
    cases hn'
    have hnever (start : Nat) : beginning v n ≠ .ok start := by
      rw [hnone]
      exact nofun
    cases v with
    | text t => exact refuses_reporting (refuses_never hnever)
    | _ => exact refuses_reporting (refuses_never hnever)

theorem refuses_completeAt {v : Json}
    (h : (∀ t, v ≠ .text t) ∨ HoldsNoInteger request "point") :
    Refuses (completeAt request v) s := by
  rcases h with htext | hpoint
  · refine refuses_bind fun n _ => ?_
    split
    · next t => exact (htext t rfl).elim
    · exact refuses_bind fun _ _ => refuses_throw _
  · exact refuses_never (point_never hpoint v)

theorem refuses_complete (h : HoldsNoText request "prefix") : Refuses (complete request) s := by
  obtain ⟨v, hv, hno⟩ := h
  unfold complete
  simp only
  split
  · next token htoken =>
    rw [fieldOr, hv] at htoken
    exact (hno token htoken).elim
  · exact refuses_bind fun _ _ => refuses_bind fun _ _ => refuses_throw _

/-! ## Faults are refused -/

section
variable {word : String} {name : Text} {act : Json → Op Seat Response}

theorem refuses_absent (hfield : (word, name) ∈ needed) (hact : operations.lookup word = some act)
    (h : request.member? name = none) : Refuses (act request) s := by
  simp only [needed, List.mem_cons, Prod.mk.injEq, List.not_mem_nil, or_false] at hfield
  obtain ⟨rfl, rfl⟩ | ⟨rfl, rfl⟩ | ⟨rfl, rfl⟩ | ⟨rfl, rfl⟩ | ⟨rfl, rfl⟩ | ⟨rfl, rfl⟩ := hfield <;>
    cases hact
  · exact refuses_evalRegion (.inl h)
  · exact refuses_evalRegion (.inr (.inr (.inl (.inl h))))
  · exact refuses_evalRegion (.inr (.inr (.inr (.inl h))))
  · exact refuses_evalLast (.inl h)
  · exact refuses_boundary (.inl h)
  · refine refuses_loadFile fun path hpath => ?_
    rw [h] at hpath
    cases hpath

theorem refuses_noText (hfield : (word, name) ∈ texts) (hact : operations.lookup word = some act)
    (h : HoldsNoText request name) : Refuses (act request) s := by
  simp only [texts, List.mem_cons, Prod.mk.injEq, List.not_mem_nil, or_false] at hfield
  obtain ⟨rfl, rfl⟩ | ⟨rfl, rfl⟩ | ⟨rfl, rfl⟩ | ⟨rfl, rfl⟩ | ⟨rfl, rfl⟩ | ⟨rfl, rfl⟩ := hfield <;>
    cases hact
  · exact refuses_eval h
  · exact refuses_transform h
  · exact refuses_evalRegion (.inr (.inl h))
  · exact refuses_evalLast (.inr (.inl h))
  · obtain ⟨v, hv, hno⟩ := h
    simp only [hv]
    exact refuses_completeAt (.inl hno)
  · obtain ⟨v, hv, hno⟩ := h
    refine refuses_loadFile fun path hpath => ?_
    rw [hv] at hpath
    cases hpath
    exact (hno path rfl).elim

theorem refuses_noInteger (hfield : (word, name) ∈ integers)
    (hact : operations.lookup word = some act) (h : HoldsNoInteger request name) :
    Refuses (act request) s := by
  simp only [integers, List.mem_cons, Prod.mk.injEq, List.not_mem_nil, or_false] at hfield
  obtain ⟨rfl, rfl⟩ | ⟨rfl, rfl⟩ | ⟨rfl, rfl⟩ | ⟨rfl, rfl⟩ := hfield <;> cases hact
  · exact refuses_evalRegion (.inr (.inr (.inl (.inr h))))
  · exact refuses_evalRegion (.inr (.inr (.inr (.inr h))))
  · exact refuses_evalLast (.inr (.inr (.inl h)))
  · exact refuses_boundary (.inr (.inl h))

/-- Notes that go to no file leave what is read from files as it was. -/
theorem readText_beside {w w' : World} (h : Beside w w') (hjournal : w.journal.file = none)
    (path : Text) : w'.machine.readText (w'.machine.absolute path).text =
      w.machine.readText (w.machine.absolute path).text := by
  rw [Machine.readText, Machine.readText, Machine.absolute, Machine.absolute, h.files hjournal,
    h.cwd]

/-- An operation whose fields cannot be used does not succeed. -/
theorem Faulty.refuses {w : World} (h : Faulty w request)
    (hact : operation? (fieldOr request "op" .null) = some act) (hs : Beside w s.world) :
    Refuses (act request) s := by
  have hlookup {known : String} (hop : Asks request known) :
      operations.lookup known = some act := by
    rw [← hop.operation?]
    exact hact
  cases h with
  | absent hfield hop h => exact refuses_absent hfield (hlookup hop) h
  | noText hfield hop h => exact refuses_noText hfield (hlookup hop) h
  | noInteger hfield hop h => exact refuses_noInteger hfield (hlookup hop) h
  | noPrefix hop hcursor h =>
    cases hlookup hop
    simp only [hcursor]
    exact refuses_complete h
  | noCursor hop hcursor h =>
    cases hlookup hop
    simp only [hcursor]
    exact refuses_completeAt (.inr h)
  | noPieces hop hv htext hlist =>
    cases hlookup hop
    exact refuses_boundary (.inr (.inr (.inl ⟨_, hv, htext, hlist⟩)))
  | noExpression hop hv hpoint h =>
    obtain hop | hop := hop
    · cases hlookup hop
      exact refuses_evalLast (.inr (.inr (.inr ⟨_, _, _, hv, hpoint, h⟩)))
    · cases hlookup hop
      exact refuses_boundary (.inr (.inr (.inr ⟨_, _, _, hv, hpoint, h⟩)))
  | noFile hop hpath hjournal h =>
    cases hlookup hop
    refine refuses_loadFile fun path hpath' => ?_
    rw [hpath] at hpath'
    cases hpath'
    exact ⟨_, (readText_beside hs hjournal _).trans h⟩

end

end

end ReplDriver.Request
