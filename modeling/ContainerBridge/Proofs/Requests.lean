import ContainerBridge.Agent.Client
import ContainerBridge.Engine.Client
import ContainerBridge.Proofs.Program

/-! The requests of a call. A call to an engine or to an agent locates what it is about, asks for it
once and reads the response; however the server answers, it asks for nothing else. -/

namespace ContainerBridge

namespace Program

variable {Q : Type} {Reply : Q → Type} {α β τ : Type}

/-- The requests of a program and those of what is done with its result. -/
theorem requests_bind (answer : (q : Q) → τ → Reply q × τ) (p : Program Reply α)
    (f : α → Program Reply β) (t : τ) :
    requests answer (p >>= f) t =
      requests answer p t ++ requests answer (f (run answer p t).1) (run answer p t).2 := by
  show requests answer (p.bind f) t = _
  induction p generalizing t with
  | done a => rfl
  | ask q next ih => exact congrArg (q :: ·) (ih _ _)

end Program

namespace Http

variable {ε α β : Type} {x : ExceptT ε Exchange α} {f : α → ExceptT ε Exchange β} {r : Request}

/-- However the server answers, the call makes this one request. -/
def Sends (x : ExceptT ε Exchange α) (r : Request) : Prop :=
  ∀ (σ : Type) (answer : Request → σ → Option Response × σ) (s : σ),
    Program.requests answer x.run s = [r]

/-- However the server answers, the call makes no request. -/
def Silent (x : ExceptT ε Exchange α) : Prop :=
  ∀ (σ : Type) (answer : Request → σ → Option Response × σ) (s : σ),
    Program.requests answer x.run s = []

theorem silent_pure (a : α) : Silent (pure a : ExceptT ε Exchange α) := fun _ _ _ => rfl

theorem silent_throw (e : ε) : Silent (throw e : ExceptT ε Exchange α) := fun _ _ _ => rfl

theorem Silent.bind (hx : Silent x) (hf : ∀ a, Silent (f a)) : Silent (x >>= f) := by
  intro σ answer s
  rw [ExceptT.run_bind, Program.requests_bind, hx, List.nil_append]
  cases (Program.run answer x.run s).1 with
  | error e => rfl
  | ok a => exact hf a σ answer _

/-- What is done with the response makes no request. -/
theorem Sends.bind (hx : Sends x r) (hf : ∀ a, Silent (f a)) : Sends (x >>= f) r := by
  intro σ answer s
  rw [ExceptT.run_bind, Program.requests_bind, hx]
  cases (Program.run answer x.run s).1 with
  | error e => rfl
  | ok a =>
    rw [hf a σ answer]
    rfl

theorem sends_lift (r : Request) : Sends (ExceptT.lift (send r) : ExceptT ε Exchange _) r :=
  fun _ _ _ => rfl

/-- A call goes on with what it has found. -/
theorem sends_of_ok {y : Except ε β} {b : β} {g : β → ExceptT ε Exchange α} (hy : y = .ok b)
    (hg : Sends (g b) r) : Sends ((liftM y : ExceptT ε Exchange β) >>= g) r := by
  subst hy
  exact hg

/-- A call makes one request only. -/
theorem Sends.unique {r' : Request} (h : Sends x r) (h' : Sends x r') : r = r' := by
  have hone := (h Unit (fun _ s => (none, s)) ()).symm.trans (h' Unit (fun _ s => (none, s)) ())
  exact (List.cons.inj hone).1

end Http

open Http Json

namespace Engine.Client

variable {c : Client} {url : Url} {α : Type}

theorem sends_send (r : Http.Request) : Sends (send r) r := by
  refine (sends_lift r).bind fun response => ?_
  cases response with
  | none => exact silent_throw _
  | some response => exact silent_pure _

theorem silent_check (r : Response) : Silent (check r) := by
  unfold check
  split
  · exact silent_pure _
  · exact silent_throw _

theorem silent_decode (d : Decoder α) (r : Response) : Silent (decode d r) := by
  unfold decode
  split
  · exact silent_pure _
  · exact silent_throw _

theorem silent_decodeKnown (d : Decoder α) (r : Response) : Silent (decodeKnown d r) := by
  unfold decodeKnown
  split
  · exact silent_pure _
  · exact (silent_check r).bind fun r => (silent_decode d r).bind fun _ => silent_pure _

theorem locate_of_join {path : String} (h : c.base.join path = .ok url) :
    c.locate path = .ok url := by
  rw [locate, h]
  rfl

theorem sends_get {path : String} (h : c.locate path = .ok url) :
    Sends (c.get path) { method := "GET", target := url.target } :=
  sends_of_ok h (sends_send _)

/-- The path of a call, from the engine's. -/
def relativePath : Request → String
  | .inspectImage image => "images/" ++ image ++ "/json"
  | .inspectContainer id => "containers/" ++ id ++ "/json"
  | .createContainer _ => "containers/create"
  | .removeContainer id _ _ => "containers/" ++ id
  | .ping => "_ping"

/-- A digit of a query. -/
def digit (b : Bool) : String := if b then "1" else "0"

/-- The request of a call, when its path leads to a URL. -/
def requestAt (url : Url) : Request → Http.Request
  | .inspectImage _ | .inspectContainer _ | .ping => { method := "GET", target := url.target }
  | .createContainer spec =>
    let url := if spec.name.isEmpty then url else url.withPairs [("name", spec.name)]
    .withJson "POST" url.target (creation spec)
  | .removeContainer _ force volumes =>
    let url := url.withPairs [("force", digit force), ("v", digit volumes)]
    { method := "DELETE", target := url.target }

theorem sends_perform {q : Request} (h : c.locate (relativePath q) = .ok url) :
    Sends (c.perform q) (requestAt url q) := by
  cases q with
  | inspectImage image => exact (sends_get h).bind fun r => silent_decodeKnown _ r
  | inspectContainer id => exact (sends_get h).bind fun r => silent_decodeKnown _ r
  | createContainer spec =>
    have hurl : c.creationUrl spec.name =
        .ok (if spec.name.isEmpty then url else url.withPairs [("name", spec.name)]) := by
      rw [creationUrl, show c.locate "containers/create" = .ok url from h]
      rfl
    refine sends_of_ok hurl ((sends_send _).bind fun r => ?_)
    exact (silent_check r).bind fun r => silent_decode _ r
  | removeContainer id force volumes =>
    have hurl : c.removalUrl id force volumes =
        .ok (url.withPairs [("force", digit force), ("v", digit volumes)]) := by
      rw [removalUrl, show c.locate ("containers/" ++ id) = .ok url from h]
      rfl
    refine sends_of_ok hurl ((sends_send _).bind fun r => ?_)
    split
    · exact silent_pure _
    · exact (silent_check r).bind fun _ => silent_pure _
  | ping => exact (sends_get h).bind fun r => (silent_check r).bind fun _ => silent_pure _

end Engine.Client

namespace Agent.Client

variable {c : Client} {url : Url} {path : String} {α : Type}

theorem sends_send (r : Request) : Sends (send r) r := by
  refine (sends_lift r).bind fun response => ?_
  cases response with
  | none => exact silent_throw _
  | some response =>
    dsimp only
    split
    · exact silent_pure _
    · exact silent_throw _

theorem silent_decode (d : Decoder α) (text : String) : Silent (decode d text) := by
  unfold decode
  split
  · exact silent_pure _
  · exact silent_throw _

theorem sends_get (h : c.locate path = .ok url) (d : Decoder α) :
    Sends (c.get path d) { method := "GET", target := url.target } :=
  sends_of_ok h ((sends_send _).bind fun text => silent_decode d text)

theorem sends_post (h : c.locate path = .ok url) (body : Json.Value) (d : Decoder α) :
    Sends (c.post path body d) (.withJson "POST" url.target body) :=
  sends_of_ok h ((sends_send _).bind fun text => silent_decode d text)

theorem sends_delete (h : c.locate path = .ok url) (query : List (String × String)) :
    Sends (c.delete path query) { method := "DELETE", target := (url.withPairs query).target } := by
  have hquery : (if query.isEmpty then url else url.withPairs query) = url.withPairs query := by
    split
    · rename_i hempty
      rw [Url.withPairs, if_pos hempty]
    · rfl
  rw [← hquery]
  exact sends_of_ok h ((sends_send _).bind fun _ => silent_pure _)

end Agent.Client
end ContainerBridge
