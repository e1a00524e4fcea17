import SqlGateway.Session.Clock
import SqlGateway.Session.Pool

/-!
# Carrying out steps

`Step.perform` is the action that a step stands for. Steps in a row are carried out one after the
other, each with an answer of its own, so a fault of one does not keep the next from being done.
-/

namespace SqlGateway.Step

mutual

/-- The action that a step stands for. -/
def perform : Step → Action Reply
  | .change changes => do
    Action.modify fun s => { s with script := changes.foldl Script.change s.script }
    return .nothing
  | .query sql parameters => .result <$> Pool.query sql parameters
  | .insert table rows missing => .result <$> Pool.insert table rows missing
  | .update table condition data tail => .result <$> Pool.update table condition data tail
  | .delete table condition tail => .result <$> Pool.delete table condition tail
  | .select table fields condition tail => .result <$> Pool.select table fields condition tail
  | .selectOne table fields condition tail =>
    Reply.ofOption <$> Pool.selectOne table fields condition tail
  | .literal v => .text <$> Pool.literal v
  | .timestamp now => .number <$> Action.ofExcept (Clock.seconds now)
  | .shutdown => do
    Gateway.shutdown
    return .nothing
  | .withConnection steps raised =>
    Pool.withConnection fun connection => do
      let answers ← performAll steps
      Action.signal raised
      return .block connection answers
  | .acquire => .connection <$> Gateway.acquire
  | .release connection => do
    Gateway.release connection
    return .nothing
  | .execute connection sql parameters => .result <$> Gateway.execute connection sql parameters
  | .together steps => .together steps fun outcomes => .ended (.ok (.gathered outcomes))
  | .faulty f => Action.fail f
termination_by structural step => step

/-- The steps one after the other, with their answers as the result. -/
def performAll : List Step → Action (List Answer)
  | [] => pure []
  | step :: rest => do
    let ended ← (perform step).capture
    let answers ← performAll rest
    return step.answer ended :: answers
termination_by structural steps => steps

end

end SqlGateway.Step
