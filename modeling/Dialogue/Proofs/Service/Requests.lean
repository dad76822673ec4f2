import Dialogue.Proofs.Dict
import Dialogue.Service

/-!
# What a request asks for

A client sees four things that can be asked for: to say something in a session, to look at it, to
drop it, and how the service is.  Before a request gets that far, its target is taken apart, its
method is compared with those of the route, and the id in the path is decoded; and a response that
comes too late is given up together with what was done for it.  This file says what is left of all
that when a request is answered in time.

* `Ask`, `Http.Request.ask?` — what a request asks for, if it is anything that is served.
* `Service.fulfil` — the service does what is asked for.
* **`Service.serve_of_ask`** — a request that is answered in time gets what it asks for.
* `Service.serve_of_no_ask` — any other request leaves everything as it was.
-/

namespace Dialogue

open Http (Route Response CorsPolicy unescape? pathOf)

/-! ## Asking -/

/-- What a client asks for, with the session's id as a text. -/
inductive Ask where
  | post (id : String)
  | get (id : String)
  | delete (id : String)
  | health
deriving DecidableEq

/-- What a method asks for at a route, if the bytes of the id are a text. -/
def Http.Route.ask? (route : Route) (method : String) : Option Ask :=
  match route with
  | .health => if method = "GET" then some .health else none
  | .session rawId =>
    if method = "GET" then (unescape? rawId).map .get
    else if method = "DELETE" then (unescape? rawId).map .delete
    else none
  | .utterances rawId => if method = "POST" then (unescape? rawId).map .post else none

/-- What a request asks for. -/
def Http.Request.ask? (r : Http.Request) : Option Ask :=
  (Route.ofPath? (pathOf r.target)).bind (·.ask? r.method)

namespace Http

lemma toList_byteArrayLoop (bs : ByteArray) (i : ℕ) (taken : List UInt8) :
    ByteArray.toList.loop bs i taken = taken.reverse ++ bs.data.toList.drop i := by
  by_cases h : i < bs.size
  · have hlength : i < bs.data.toList.length := by simpa using h
    have hget : bs.get! i = bs.data.toList[i] := by
      rw [ByteArray.get!]
      simp [h]
    rw [ByteArray.toList.loop, if_pos h, toList_byteArrayLoop bs (i + 1), hget, List.reverse_cons,
      List.append_assoc, List.singleton_append, ← List.drop_eq_getElem_cons]
  · rw [ByteArray.toList.loop, if_neg h, List.drop_eq_nil_of_le (by simpa using h),
      List.append_nil]
termination_by bs.size - i

/-- An id is what its bytes are, once the escapes are undone. -/
lemma unescape?_eq_some {segment : List Char} {id : String}
    (h : unescapeBytes (String.ofList segment).toUTF8.data.toList = id.toUTF8.data.toList) :
    unescape? segment = some id := by
  have hbytes (bs : ByteArray) : bs.toList = bs.data.toList := toList_byteArrayLoop bs 0 []
  rw [unescape?, hbytes, h, String.fromUTF8?]
  exact dif_pos id.isValidUTF8

@[simp] lemma Response.status_of (status : ℕ) (content : Content) :
    (Response.of status content).status = status := rfl

@[simp] lemma Response.content_of (status : ℕ) (content : Content) :
    (Response.of status content).content = content := rfl

@[simp] lemma Response.status_bare (status : ℕ) : (Response.bare status).status = status := rfl

/-- The question of a browser has a method of its own. -/
lemma Route.ne_options {route : Route} {method : String} (h : method ∈ route.methods) :
    method ≠ "OPTIONS" := by
  rintro rfl
  cases route <;> simp [methods] at h

namespace CorsPolicy

variable (p : CorsPolicy) (origin : Option String) (response : Response)

lemma status_letIn : (p.letIn origin response).status = response.status := by
  rw [letIn]
  split <;> rfl

lemma content_letIn : (p.letIn origin response).content = response.content := by
  rw [letIn]
  split <;> rfl

end CorsPolicy

end Http

namespace Service

variable {σ τ : Type} {s : Service σ τ} {now : Timestamp} {r : Http.Request} {w : World σ τ}

/-- The service does what is asked for: the response, how many milliseconds it took, and the state
after it. -/
def fulfil (s : Service σ τ) (now : Timestamp) (r : Http.Request) (w : World σ τ) :
    Ask → Response × Nat × World σ τ
  | .post id => s.say now id r w
  | .get id => (s.showSession id w, 0, w)
  | .delete id => ((s.drop id w).1, 0, (s.drop id w).2)
  | .health => (s.health w, 0, w)

/-- What is asked for is done, and it takes one of the methods of the route. -/
lemma perform_of_ask (s : Service σ τ) (now : Timestamp) (w : World σ τ) {route : Route} {ask : Ask}
    (h : route.ask? r.method = some ask) :
    r.method ∈ route.methods ∧ r.method ≠ "HEAD" ∧
      s.perform now route r w = s.fulfil now r w ask := by
  cases route with
  | health =>
      obtain ⟨hmethod, hask⟩ := Option.ite_none_right_eq_some.mp h
      obtain rfl := Option.some.inj hask
      simp [hmethod, Route.methods, perform, fulfil]
  | session rawId =>
      rw [Route.ask?] at h
      by_cases hget : r.method = "GET"
      · rw [if_pos hget] at h
        obtain ⟨id, hid, rfl⟩ := Option.map_eq_some_iff.mp h
        simp [hget, hid, Route.methods, perform, fulfil]
      · rw [if_neg hget] at h
        obtain ⟨hdelete, hask⟩ := Option.ite_none_right_eq_some.mp h
        obtain ⟨id, hid, rfl⟩ := Option.map_eq_some_iff.mp hask
        simp [hdelete, hid, Route.methods, perform, fulfil]
  | utterances rawId =>
      obtain ⟨hmethod, hask⟩ := Option.ite_none_right_eq_some.mp h
      obtain ⟨id, hid, rfl⟩ := Option.map_eq_some_iff.mp hask
      simp [hmethod, hid, Route.methods, perform, fulfil]

/-- Where nothing is asked for, as in a request for the header alone, nothing changes. -/
lemma perform_of_no_ask (s : Service σ τ) (now : Timestamp) (w : World σ τ) {route : Route}
    (h : route.ask? r.method = none) (hmethod : r.method ∈ route.methods) :
    (s.perform now route r w).2.2 = w := by
  cases route with
  | health => rfl
  | session rawId =>
      cases hid : unescape? rawId with
      | none => simp [perform, hid]
      | some id =>
          have hdelete : r.method ≠ "DELETE" := by
            intro hdelete
            simp [Route.ask?, hdelete, hid] at h
          simp [perform, hid, hdelete]
  | utterances rawId =>
      have hpost : r.method = "POST" := by simpa [Route.methods] using hmethod
      cases hid : unescape? rawId with
      | none => simp [perform, hid]
      | some id => simp [Route.ask?, hpost, hid] at h

/-! ## Answers in time -/

/-- Being late shows in the status, whatever is done to the response afterwards. -/
lemma withinLimit_of_in_time {before after : World σ τ} {response : Response} {waited : ℕ}
    (h : (s.withinLimit before response waited after).1.status ≠ 408) :
    s.withinLimit before response waited after = (response, after) := by
  rw [withinLimit] at h ⊢
  split
  · rename_i hlate
    rw [if_pos hlate] at h
    exact absurd rfl h
  · rfl

/-- **A request that is answered in time gets what it asks for.** -/
lemma serve_of_ask {ask : Ask} (h : r.ask? = some ask) (htime : (s.serve now r w).1.status ≠ 408) :
    (s.serve now r w).1.status = (s.fulfil now r w ask).1.status ∧
    (s.serve now r w).1.content = (s.fulfil now r w ask).1.content ∧
    (s.serve now r w).2 = (s.fulfil now r w ask).2.2 := by
  obtain ⟨route, hroute, hask⟩ := Option.bind_eq_some_iff.mp h
  obtain ⟨hmethod, hhead, hperform⟩ := perform_of_ask s now w hask
  have hserve : s.serve now r w = s.withinLimit w (s.forBrowser r (s.fulfil now r w ask).1)
      (s.fulfil now r w ask).2.1 (s.fulfil now r w ask).2.2 := by
    rw [serve, hroute]
    dsimp only
    rw [if_pos (List.contains_iff_mem.mpr hmethod), hperform, if_neg (by simpa using hhead)]
  rw [hserve] at htime ⊢
  rw [withinLimit_of_in_time htime, forBrowser, if_neg (by simpa using Route.ne_options hmethod)]
  exact ⟨CorsPolicy.status_letIn _ _ _, CorsPolicy.content_letIn _ _ _, rfl⟩

/-- A response that is given up has changed nothing. -/
lemma withinLimit_unchanged (response : Response) (waited : ℕ) :
    (s.withinLimit w response waited w).2 = w := by
  rw [withinLimit]
  split <;> rfl

/-- **A request that asks for nothing leaves everything as it was.** -/
lemma serve_of_no_ask (h : r.ask? = none) : (s.serve now r w).2 = w := by
  rw [Http.Request.ask?] at h
  rw [serve]
  cases hroute : Route.ofPath? (pathOf r.target) with
  | none => exact withinLimit_unchanged _ _
  | some route =>
      rw [hroute] at h
      dsimp only
      by_cases hmethod : r.method ∈ route.methods
      · rw [if_pos (List.contains_iff_mem.mpr hmethod), perform_of_no_ask s now w h hmethod]
        exact withinLimit_unchanged _ _
      · rw [if_neg (by simpa using hmethod)]
        exact withinLimit_unchanged _ _

end Service

end Dialogue
