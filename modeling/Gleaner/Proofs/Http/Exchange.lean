import Gleaner.Http.Exchange
import Gleaner.Proofs.Http.Field

set_option autoImplicit false

/-! # What an exchange sends

An exchange adds to the requests that have been sent. The first that it adds is the one that it is asked to
send; if this does not reach the server, it adds none. Those behind it follow redirects. -/

namespace Gleaner.Http

/-! ## Behind a redirect -/

/-- A redirected request has the fields of the one before it, except for those that describe a body left
behind, those that were for another host, and the one that names the page before. -/
theorem values_redirected (r : Request) (status : Nat) (next : Url) {name : String}
    (hname : name ≠ "referer") :
    (redirected r status next).fields.values name
      = if dropsBody r.method status = true ∧ name ∈ bodyFields
          ∨ sameHost r.url next = false ∧ name ∈ sensitiveFields then []
        else r.fields.values name := by
  have hset (fields : Fields) (referer : String) :
      (fields.set ⟨"referer", referer⟩).values name = fields.values name :=
    (fields.values_set ..).trans (if_neg hname.symm)
  unfold redirected
  cases referer? r.url next with
  | none => grind [Fields.values_foldl_erase]
  | some referer =>
    refine (hset _ referer).trans ?_
    grind [Fields.values_foldl_erase]

/-- What is left behind is left as a whole: the body, what describes it, and a method that would need it. -/
theorem redirected_of_dropsBody {r : Request} {status : Nat} (h : dropsBody r.method status = true)
    (next : Url) :
    (redirected r status next).method = (if r.method = "HEAD" then "HEAD" else "GET")
      ∧ (redirected r status next).body = none
      ∧ ∀ name ∈ bodyFields, (redirected r status next).fields.values name = [] := by
  refine ⟨?_, if_pos h, fun name hname => ?_⟩
  · simp only [redirected, h, Bool.true_and]
    by_cases hhead : r.method = "HEAD" <;> simp [hhead]
  · have hreferer : name ≠ "referer" := by
      rintro rfl
      exact absurd hname (by decide)
    rw [values_redirected r status next hreferer, if_pos (.inl ⟨h, hname⟩)]

/-! ## One request after the other -/

/-- A request that is sent after others reaches the server. -/
def Server.Reached (server : Server) (sent : List Request) (r : Request) : Prop :=
  isSendable r.url = true ∧ ∀ obstacle, server (sent ++ [r]) ≠ .unreachable obstacle

namespace Server

variable (server : Server) (limit : Nat) (r : Request) (sent : List Request)

/-- A request does not reach the server, or it does and is the last one, or it is followed by the one that a
redirect makes of it. -/
theorem exchange_cases :
    (¬ server.Reached sent r ∧ ∃ fault, server.exchange limit r sent = (sent, .error fault))
    ∨ server.Reached sent r ∧
      ((∃ outcome, server.exchange limit r sent = (sent ++ [r], outcome))
        ∨ ∃ rest status next, limit = rest + 1 ∧ server.exchange limit r sent
          = server.exchange rest (redirected r status next) (sent ++ [r])) := by
  cases hsendable : isSendable r.url with
  | false =>
    refine Or.inl ⟨fun h => Bool.noConfusion (hsendable.symm.trans h.1), .unsendable r.url, ?_⟩
    rw [exchange.eq_def]
    simp only [hsendable, Bool.not_false, if_true]
  | true =>
    rw [exchange.eq_def]
    simp only [hsendable, Bool.not_true, Bool.false_eq_true, if_false]
    cases hreply : server (sent ++ [r]) with
    | unreachable obstacle => exact Or.inl ⟨fun h => h.2 obstacle hreply, _, rfl⟩
    | silence => exact Or.inr ⟨⟨hsendable, by simp [hreply]⟩, Or.inl ⟨_, rfl⟩⟩
    | response status fields body =>
      refine Or.inr ⟨⟨hsendable, by simp [hreply]⟩, ?_⟩
      dsimp only
      cases redirection? r.url status fields with
      | none => exact Or.inl ⟨_, rfl⟩
      | some next =>
        cases limit with
        | zero => exact Or.inl ⟨_, rfl⟩
        | succ rest =>
          by_cases hscheme : next.scheme = "http" ∨ next.scheme = "https"
          · exact Or.inr ⟨rest, status, next, rfl, if_pos hscheme⟩
          · exact Or.inl ⟨_, if_neg hscheme⟩

/-- No request that has been sent is forgotten. -/
theorem prefix_exchange : sent <+: (server.exchange limit r sent).1 := by
  -- A redirect leaves a smaller limit and has another request behind one more that has been sent.
  induction limit using Nat.strongRecOn generalizing r sent with
  | ind limit ih =>
    rcases server.exchange_cases limit r sent with
      ⟨-, fault, h⟩ | ⟨-, ⟨outcome, h⟩ | ⟨rest, status, next, rfl, h⟩⟩
    · exact h ▸ List.prefix_rfl
    · exact h ▸ List.prefix_append ..
    · exact h ▸ (List.prefix_append ..).trans (ih rest (Nat.lt_succ_self rest) _ _)

variable {server r sent}

theorem exchange_of_not_reached (h : ¬ server.Reached sent r) :
    (server.exchange limit r sent).1 = sent := by
  rcases server.exchange_cases limit r sent with ⟨-, fault, hexchange⟩ | ⟨hreached, -⟩
  · rw [hexchange]
  · exact absurd hreached h

/-- A request that reaches the server comes right behind those that have been sent before. -/
theorem prefix_exchange_of_reached (h : server.Reached sent r) :
    sent ++ [r] <+: (server.exchange limit r sent).1 := by
  rcases server.exchange_cases limit r sent with
    ⟨hnot, -⟩ | ⟨-, ⟨outcome, hexchange⟩ | ⟨rest, status, next, -, hexchange⟩⟩
  · exact absurd h hnot
  · exact hexchange ▸ List.prefix_rfl
  · exact hexchange ▸ server.prefix_exchange rest _ _

end Server

end Gleaner.Http
