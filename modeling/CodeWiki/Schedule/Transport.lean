import CodeWiki.Schedule.Run

/-!
Calls over a transport: the question of a task goes out as a request, and the reply is read from
what becomes of it.
-/
namespace CodeWiki

def Reply.ofCompletion : Except CompletionError Text → Reply
  | .ok t => .text t
  | .error e => .failure e

namespace Schedule

/-- Whoever carries requests, with what it remembers of them, and the milliseconds that it takes. -/
structure Transport (σ : Type) where
  send : HttpRequest → σ → HttpResult × σ
  latencyMs : HttpRequest → σ → Nat := fun _ _ => 0

def Transport.provider {σ : Type} (transport : Transport σ) (client : Client) : Provider σ where
  call task memory :=
    let request := client.request task.key task.prompt
    let (result, memory') := transport.send request memory
    ({ reply := .ofCompletion (Client.read task.key.backend result)
       latencyMs := transport.latencyMs request memory }, memory')

end Schedule
end CodeWiki
