import KisAuth.Interaction.Conformance
import KisAuth.Service.InternalConduct
import KisAuth.Service.RouteConduct

/-
  Every route obeys the protocol and keeps to its terms, so
  every call of every run is allowed by the answers its own
  request has received.

  Key theorems include:
    * `handler_conducted`
    * `handler_obeys`, `handler_onTerms`
    * `Run.protocol`, `Run.terms`, `Run.holdsSessions`
-/

------------------------------------------------------------
-- Routes
------------------------------------------------------------

namespace KisAuth

open Interaction Prog

variable {P : Platform} {cfg : KisAuthConfig}

/- A route that serves no browser redirects nowhere. -/
theorem concluded_of_outcome
    {q : Request}
    {past : Past}
    {outcome : Except HttpError Response}
    (hBrowser : q.browser = none)
    (hEnds : Outcome P cfg q past outcome) :
    Concluded P cfg q past outcome := by
  cases outcome with
  | error error => exact ⟨hEnds, trivial, trivial⟩
  | ok response =>
      cases response with
      | redirect location cookie =>
          have hSent : SentTo P cfg past location q := hEnds.2
          cases q with
          | authorize query req => cases hBrowser
          | googleStart req => cases hBrowser
          | googleCallback query req => cases hBrowser
          | enterpriseStart partnerSlug req => cases hBrowser
          | enterpriseCallback partnerSlug query req =>
              cases hBrowser
          | _ => exact hSent.elim
      | _ =>
          exact
            ⟨hEnds, trivial, fun cookie hCookie => by
              cases hCookie⟩

/- So it is enough to say where it ends. -/
theorem Obeys.concluded
    {q : Request}
    {program : KisM Response}
    (hBrowser : q.browser = none)
    (hObeys :
      Obeys (Conducted P cfg q) (Outcome P cfg q) program
        []) :
    Obeys (Conducted P cfg q) (Concluded P cfg q) program
      [] :=
  hObeys.mono (fun _ _ hCall => hCall)
    (fun _ _ hEnds => concluded_of_outcome hBrowser hEnds)

/- A refusal leads nowhere and sets no cookie. -/
theorem concluded_error
    {q : Request}
    {past : Past}
    {error : HttpError}
    (hNone : q.redeems = none) :
    Concluded P cfg q past (.error error) where
  ends := redeemed_of_none hNone
  start := trivial
  cookie := trivial

/- A redirect without a cookie. -/
theorem concluded_redirect
    {q : Request}
    {past : Past}
    {location : String}
    (hNone : q.redeems = none)
    (hSent : SentTo P cfg past location q)
    (hDeparts : DepartsFrom P cfg past location q) :
    Concluded P cfg q past (.ok (.redirect location none)) where
  ends := ⟨redeemed_of_none hNone, hSent⟩
  start := hDeparts
  cookie := fun cookie hCookie => by cases hCookie

/- Every route obeys the protocol, on its terms. -/
theorem handler_conducted (q : Request) :
    Obeys (Conducted P cfg q) (Concluded P cfg q)
      (handler P cfg q) [] := by
  cases q with
  | authorize query req =>
      apply conduct_authorize
      · intro later sessionId session ttl hDrawn hStored
        refine ⟨⟨redeemed_of_none rfl, rfl⟩, trivial, ?_⟩
        intro cookie hCookie
        cases hCookie
        exact ⟨sessionId, session, ttl, hDrawn, hStored, rfl⟩
      · exact fun later error => concluded_error rfl
  | googleStart req =>
      apply conduct_googleStart
      · intro later location hDeparts
        refine concluded_redirect rfl ?_ ?_
        · rcases hDeparts with
            ⟨_, _, _, _, url, _, _, _, hUrl, hLocation⟩
          exact ⟨url, _, hUrl, hLocation⟩
        · exact hDeparts
      · exact fun later error => concluded_error rfl
  | googleCallback query req =>
      apply conduct_googleCallback
      exact
        { handOff := fun later location hHandsOff =>
            concluded_redirect rfl hHandsOff trivial
          error := fun later error => concluded_error rfl }
  | enterpriseStart partnerSlug req =>
      apply conduct_enterpriseStart
      · exact fun later location hTenant hDeparts =>
          concluded_redirect rfl hTenant hDeparts
      · exact fun later error => concluded_error rfl
  | enterpriseCallback partnerSlug query req =>
      apply conduct_enterpriseCallback
      exact
        { handOff := fun later location hHandsOff =>
            concluded_redirect rfl hHandsOff trivial
          error := fun later error => concluded_error rfl }
  | authorizationExchange post =>
      exact Obeys.concluded rfl (conduct_exchange post)
  | registrationExchange post =>
      exact
        Obeys.concluded rfl (conduct_registrationExchange post)
  | identityLink post =>
      exact Obeys.concluded rfl (conduct_identityLink post)
  | status query =>
      exact Obeys.concluded rfl (conduct_status query)
  | welcome =>
      exact
        concluded_of_outcome rfl ⟨redeemed_of_none rfl, rfl⟩
  | jwks =>
      exact
        concluded_of_outcome rfl
          ⟨redeemed_of_none rfl, trivial⟩
  | healthz =>
      exact
        concluded_of_outcome rfl
          ⟨redeemed_of_none rfl, trivial⟩
  | readyz =>
      exact
        concluded_of_outcome rfl
          ⟨redeemed_of_none rfl, trivial⟩

/- Every route obeys the protocol. -/
theorem handler_obeys (q : Request) :
    Obeys (Allowed P cfg q) (Outcome P cfg q)
      (handler P cfg q) [] :=
  (handler_conducted q).mono
    (fun _ _ hCall => hCall.allowed)
    (fun _ _ hEnds => hEnds.ends)

/-
  Every route keeps to the terms, and what it sends the
  browser off with was stored before.
-/
theorem handler_onTerms (q : Request) :
    Obeys (OnTerms P cfg q) (StartOutcome P cfg q)
      (handler P cfg q) [] :=
  (handler_conducted q).mono
    (fun _ _ hCall => hCall.terms)
    (fun _ _ hEnds => hEnds.start)

/-
  Every request keeps to the session of its cookie, and only
  /authorize sets a cookie.
-/
theorem handler_holdsSession (q : Request) :
    Obeys (fun _ effect => OwnSession q.held effect)
      (SetsCookie cfg) (handler P cfg q) [] :=
  (handler_conducted q).mono
    (fun _ _ hCall => hCall.own)
    (fun _ _ hEnds => hEnds.cookie)

end KisAuth

------------------------------------------------------------
-- Runs
------------------------------------------------------------

namespace KisAuth

open Interaction

variable {P : Platform} {cfg : KisAuthConfig}

/- Every call and every response of a run is allowed. -/
theorem Run.protocol (run : Run P cfg) :
    Always (Keeps (Allowed P cfg) (Outcome P cfg))
      run.history :=
  Reachable.obeys handler_obeys run.reachable

/- Every call of a run is on its terms. -/
theorem Run.terms (run : Run P cfg) :
    Always (Keeps (OnTerms P cfg) (StartOutcome P cfg))
      run.history :=
  Reachable.obeys handler_onTerms run.reachable

/- Every request keeps to its session and its own cookie. -/
abbrev HoldsSessions
    (cfg : KisAuthConfig)
    (history : History) : Prop :=
  Always
    (Keeps (fun q _ effect => OwnSession q.held effect)
      (fun _ => SetsCookie cfg))
    history

theorem Run.holdsSessions (run : Run P cfg) :
    HoldsSessions cfg run.history :=
  Reachable.obeys handler_holdsSession run.reachable

theorem Run.conforms (run : Run P cfg) :
    Always (Conforms (handler P cfg)) run.history :=
  Reachable.conforms run.reachable

end KisAuth
