import GatewayPolicy.Compiler
/-!
# Falling back past unavailable compilers

A chain asks its compilers in order up to the first one that is available, and gives the answer of
that one as it is; if there is none, the chain itself is unavailable. This is one law for everything
a compiler can be asked. Which compilers are asked is observed by what their calls do besides
answering, in any monad: the calls of a chain do what the calls of the compilers do that are asked,
in order, and nothing else.
-/

namespace GatewayPolicy

/-! ## Requests -/

/-- What a compiler can be asked, and the type of what it answers. -/
inductive Request : Type → Type where
  /-- To write the document of a model. -/
  | toXml (p : Model) : Request String
  /-- To read the model of a document. -/
  | ofXml (document : String) : Request Model
  /-- To validate a model. -/
  | validate (p : Model) : Request ValidationResult

variable {m : Type → Type} {α : Type} {q : Request α}

/-- Makes a request to a compiler. -/
def Compiler.ask (c : Compiler m) : {α : Type} → Request α → m (Except Error α)
  | _, .toXml p => c.toXml p
  | _, .ofXml document => c.ofXml document
  | _, .validate p => c.validate p

/-- Makes a request to a chain. -/
def CompilerChain.ask [Monad m] (chain : CompilerChain m) :
    {α : Type} → Request α → m (Except Error α)
  | _, .toXml p => chain.toXml p
  | _, .ofXml document => chain.ofXml document
  | _, .validate p => chain.validate p

theorem CompilerChain.ask_eq [Monad m] (chain : CompilerChain m) (q : Request α) :
    chain.ask q = firstAvailable (chain.map (·.ask q)) := by
  cases q <;> rfl

/-! ## Strategies -/

/-- The answer is that a compiler is unavailable, whatever its name and message. -/
def IsUnavailable (answer : Except Error α) : Prop :=
  ∃ name message, answer = .error (.unavailable name message)

theorem isUnavailable_iff {answer : Except Error α} :
    isUnavailable answer = true ↔ IsUnavailable answer := by
  cases answer with
  | ok a => simp [isUnavailable, IsUnavailable]
  | error e => cases e <;> simp [isUnavailable, IsUnavailable]

/-- A compiler with what its calls do besides answering. -/
structure Strategy (m : Type → Type) where
  /-- The compiler, which only answers. -/
  compiler : Compiler Id
  /-- What a call does besides answering. -/
  effect : {α : Type} → Request α → m Unit

namespace Strategy

/-- The answer to a request. -/
def answer (s : Strategy m) (q : Request α) : Except Error α := s.compiler.ask q

/-- The answer to the request is another than that the compiler is unavailable. -/
def isAvailable (q : Request α) (s : Strategy m) : Bool := !isUnavailable (s.answer q)

variable [Monad m]

/-- The compiler whose calls do more than to answer. -/
def toCompiler (s : Strategy m) : Compiler m where
  name := s.compiler.name
  toXml p := do s.effect (.toXml p); return s.answer (.toXml p)
  ofXml document := do s.effect (.ofXml document); return s.answer (.ofXml document)
  validate p := do s.effect (.validate p); return s.answer (.validate p)

theorem ask_toCompiler (s : Strategy m) (q : Request α) :
    s.toCompiler.ask q = do s.effect q; return s.answer q := by
  cases q <;> rfl

end Strategy

/-! ## Who is asked, and what the answer is -/

/-- Of the strategies, those in the second list are asked, and the answer is the last argument. -/
inductive FallsBack (q : Request α) :
    List (Strategy m) → List (Strategy m) → Except Error α → Prop where
  /-- The first strategy that is available answers; those behind it are not asked. -/
  | first {before after : List (Strategy m)} {s : Strategy m}
    (hbefore : ∀ u ∈ before, IsUnavailable (u.answer q)) (hs : ¬ IsUnavailable (s.answer q)) :
    FallsBack q (before ++ s :: after) (before ++ [s]) (s.answer q)
  /-- All are asked, and none is available. -/
  | nobody {strategies : List (Strategy m)}
    (h : ∀ u ∈ strategies, IsUnavailable (u.answer q)) :
    FallsBack q strategies strategies
      (.error (.unavailable "provider" "no compiler strategy is available"))

variable {strategies asked : List (Strategy m)} {answer : Except Error α}

theorem isAvailable_eq_false_iff {s : Strategy m} :
    s.isAvailable q = false ↔ IsUnavailable (s.answer q) := by
  rw [Strategy.isAvailable, Bool.not_eq_false', isUnavailable_iff]

theorem isAvailable_iff {s : Strategy m} :
    s.isAvailable q = true ↔ ¬ IsUnavailable (s.answer q) := by
  rw [← isAvailable_eq_false_iff, Bool.not_eq_false]

theorem find?_isAvailable_eq_none (h : ∀ u ∈ strategies, IsUnavailable (u.answer q)) :
    strategies.find? (·.isAvailable q) = none :=
  List.find?_eq_none.2 fun u hu => by simp [isAvailable_eq_false_iff.2 (h u hu)]

theorem exists_fallsBack (q : Request α) (strategies : List (Strategy m)) :
    ∃ asked answer, FallsBack q strategies asked answer := by
  cases h : strategies.find? (·.isAvailable q) with
  | none =>
    refine ⟨_, _, .nobody fun u hu => ?_⟩
    rw [← isAvailable_eq_false_iff, ← Bool.not_eq_true]
    exact List.find?_eq_none.1 h u hu
  | some s =>
    obtain ⟨hs, before, after, rfl, hbefore⟩ := List.find?_eq_some_iff_append.1 h
    refine ⟨_, _, .first (fun u hu => ?_) (isAvailable_iff.1 hs)⟩
    simpa [isAvailable_eq_false_iff] using hbefore u hu

/-- The answer depends only on the strategies that are available. -/
theorem FallsBack.answer_eq (h : FallsBack q strategies asked answer) :
    answer = (((strategies.filter (·.isAvailable q)).head?.map (·.answer q)).getD
      (.error exhausted)) := by
  rw [List.head?_filter]
  cases h with
  | first hbefore hs =>
    rw [List.find?_append, find?_isAvailable_eq_none hbefore, Option.none_or,
      List.find?_cons_of_pos (isAvailable_iff.2 hs)]
    rfl
  | nobody h =>
    rw [find?_isAvailable_eq_none h]
    rfl

/-- Those are asked that stand in front of the first one that is available, and that one. -/
theorem FallsBack.asked_eq (h : FallsBack q strategies asked answer) :
    asked = strategies.takeWhile (!·.isAvailable q) ++
      (strategies.find? (·.isAvailable q)).toList := by
  have pass {us : List (Strategy m)} (hus : ∀ u ∈ us, IsUnavailable (u.answer q)) :
      ∀ u ∈ us, (!u.isAvailable q) = true :=
    fun u hu => by simp [isAvailable_eq_false_iff.2 (hus u hu)]
  cases h with
  | first hbefore hs =>
    rw [List.takeWhile_append_of_pos (pass hbefore), List.find?_append,
      find?_isAvailable_eq_none hbefore, Option.none_or]
    simp [isAvailable_iff.2 hs]
  | nobody h =>
    have htake : (strategies ++ []).takeWhile (!·.isAvailable q) = strategies ++ [] :=
      List.takeWhile_append_of_pos (pass h)
    rw [List.append_nil] at htake
    rw [htake, find?_isAvailable_eq_none h, Option.toList_none, List.append_nil]

/-- A chain speaks of its own unavailability only. -/
theorem FallsBack.name_eq (h : FallsBack q strategies asked answer) {name message : String}
    (ha : answer = .error (.unavailable name message)) : name = "provider" := by
  cases h with
  | first _ hs => exact absurd ⟨name, message, ha⟩ hs
  | nobody =>
    cases ha
    rfl

/-! ## Runs -/

section Run

variable [Monad m] [LawfulMonad m]

/-- The call of the first compiler of a chain. -/
theorem firstAvailable_cons (s : Strategy m) (calls : List (m (Except Error α))) :
    firstAvailable (s.toCompiler.ask q :: calls) = do
      s.effect q
      if isUnavailable (s.answer q) then firstAvailable calls else return s.answer q := by
  rw [firstAvailable, Strategy.ask_toCompiler]
  simp

/-- Unavailable compilers in front are called and passed over. -/
theorem firstAvailable_append {before : List (Strategy m)}
    (h : ∀ u ∈ before, IsUnavailable (u.answer q)) (calls : List (m (Except Error α))) :
    firstAvailable (before.map (·.toCompiler.ask q) ++ calls) =
      (do forM before (·.effect q); firstAvailable calls) := by
  induction before with
  | nil => simp
  | cons s before ih =>
    obtain ⟨hs, hbefore⟩ := List.forall_mem_cons.1 h
    rw [List.map_cons, List.cons_append, firstAvailable_cons, if_pos (isUnavailable_iff.2 hs),
      ih hbefore, List.forM_cons, bind_assoc]

/-- A chain makes the calls of the strategies that are asked, and gives the answer. -/
theorem FallsBack.ask_eq (h : FallsBack q strategies asked answer) :
    CompilerChain.ask (strategies.map (·.toCompiler)) q = do
      forM asked (·.effect q)
      return answer := by
  rw [CompilerChain.ask_eq, List.map_map]
  cases h with
  | @first before after s hbefore hs =>
    rw [List.map_append, List.map_cons]
    refine (firstAvailable_append hbefore _).trans ?_
    refine Eq.trans (congrArg _ (funext fun _ => firstAvailable_cons s _)) ?_
    have hfalse : isUnavailable (s.answer q) = false := by
      rwa [← Bool.not_eq_true, isUnavailable_iff]
    simp [hfalse, List.forM_append]
  | nobody h =>
    have hall := firstAvailable_append h []
    rw [List.append_nil] at hall
    exact hall

/-- Whatever a chain is asked, it calls its strategies in order up to the first one that is
available and gives its answer as it is, or calls all of them and is unavailable by its own name.
Strategies that are unavailable may be put in or left out anywhere without a change of the answer. -/
theorem ask_fallsBack (q : Request α) (strategies : List (Strategy m)) :
    ∃ asked answer, FallsBack q strategies asked answer ∧
      CompilerChain.ask (strategies.map (·.toCompiler)) q =
        (do forM asked (·.effect q); return answer) ∧
      (∀ name message, answer = .error (.unavailable name message) → name = "provider") ∧
      ∀ strategies' : List (Strategy m),
        strategies'.filter (·.isAvailable q) = strategies.filter (·.isAvailable q) →
          ∃ asked', FallsBack q strategies' asked' answer ∧
            CompilerChain.ask (strategies'.map (·.toCompiler)) q =
              (do forM asked' (·.effect q); return answer) := by
  obtain ⟨asked, answer, h⟩ := exists_fallsBack q strategies
  refine ⟨asked, answer, h, h.ask_eq, fun _ _ => h.name_eq, fun strategies' hfilter => ?_⟩
  obtain ⟨asked', answer', h'⟩ := exists_fallsBack q strategies'
  obtain rfl : answer' = answer := by rw [h'.answer_eq, h.answer_eq, hfilter]
  exact ⟨asked', h', h'.ask_eq⟩

end Run

/-- A compiler that gives the same error to every request. -/
def failingCompiler (name : String) (e : Error) : Compiler Id where
  name := name
  toXml _ := .error e
  ofXml _ := .error e
  validate _ := .error e

/-- A compiler that notes its name in a log when it is called. -/
def loggedStrategy (c : Compiler Id) : Strategy (StateM (List String)) where
  compiler := c
  effect _ := modify (· ++ [c.name])

/-- Two compilers that are unavailable, this library between them, and one that breaks. -/
def loggedStrategies : List (Strategy (StateM (List String))) :=
  [loggedStrategy (failingCompiler "offline" (.unavailable "remote" "endpoint not configured")),
    loggedStrategy .localWith,
    loggedStrategy (failingCompiler "remote" (.unavailable "remote" "no route")),
    loggedStrategy (failingCompiler "broken" (.adapter "remote" "500 internal server error"))]

theorem ask_fallsBack_loggedStrategies :
    (CompilerChain.validate (loggedStrategies.map Strategy.toCompiler)
        { scope := .global }).run [] =
      (.ok (Model.validate { scope := .global }), ["offline", "local"]) := by
  obtain ⟨asked, answer, h, hask, -, -⟩ :=
    ask_fallsBack (.validate { scope := .global }) loggedStrategies
  have hcalls : asked = loggedStrategies.take 2 := h.asked_eq
  have hanswer : answer = .ok (Model.validate { scope := .global }) := h.answer_eq
  subst hcalls hanswer
  exact congrArg (·.run []) hask

end GatewayPolicy
