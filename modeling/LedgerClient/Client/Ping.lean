import LedgerClient.Query.Polls

/-!
# Pings

A node answers if it tells its own balance.
-/

namespace LedgerClient.Client

variable {ω χ : Type}

/-- Asks a node for its own balance. -/
def ping (client : Client ω χ) (node : AccountId) (scene : Scene ω χ) : Run ω χ Unit :=
  match scene.network.member? node with
  | none => .refused (.unknownNode node) scene
  | some _ =>
      let query : Query AccountBalance := { question := .balance node, nodes := [node] }
      (query.run client .answerOnly scene).bind fun _ => .ok ()

/-- Pings nodes in turn, up to the first that does not answer. -/
def pingEach (client : Client ω χ) : List AccountId → Scene ω χ → Run ω χ Unit
  | [], scene => ⟨[], .ok (), scene⟩
  | node :: rest, scene =>
      let run := client.ping node scene
      match run.outcome with
      | .error error => ⟨run.attempts, .error error, run.scene⟩
      | .ok () =>
          let later := pingEach client rest run.scene
          { later with attempts := run.attempts ++ later.attempts }

/-- Pings all nodes in turn. -/
def pingAll (client : Client ω χ) (scene : Scene ω χ) : Run ω χ Unit :=
  client.pingEach scene.network.accounts scene

end LedgerClient.Client
