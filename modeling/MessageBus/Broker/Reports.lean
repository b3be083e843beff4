import MessageBus.Broker.Basic

namespace MessageBus

/-!
# Periodic reports

Each report has a period of its own.  A report is due when its period is over,
counted from the moment when it was last due; a moment that was missed is not
made up for.  Taking a tally empties it, whether or not somebody gets to see it.
-/

namespace Broker

/-- The timing report, if it is due. -/
def reportTiming (broker : Broker) (now : Milliseconds) : Broker :=
  let settings := broker.config.diagnostics
  let diagnostics := broker.diagnostics
  if isDue diagnostics.lastTiming now settings.timingInterval then
    let taken :=
      { broker with diagnostics := { diagnostics with timing := [], lastTiming := now } }
    if settings.timingEnabled then
      taken.publishPayload
        (Timing.ofTally diagnostics.timing broker.pid broker.modules.registered
          broker.clock.seconds)
    else taken
  else broker

/-- The traffic report, if it is due and there was traffic. -/
def reportTraffic (broker : Broker) (now : Milliseconds) : Broker :=
  let diagnostics := broker.diagnostics
  if isDue diagnostics.lastTraffic now broker.config.diagnostics.trafficInterval then
    let duration : Milliseconds := now - diagnostics.lastTraffic
    if diagnostics.traffic.isEmpty then
      { broker with diagnostics := { diagnostics with lastTraffic := now } }
    else
      let trafficSequence := diagnostics.trafficSequence + 1
      let taken :=
        { broker with
          diagnostics := { diagnostics with traffic := [], trafficSequence, lastTraffic := now } }
      taken.publishPayloads
        (Traffic.ofTally trafficSequence broker.clock.seconds duration.secondsBits
          diagnostics.traffic)
  else broker

/-- The directory, if it is due: the list of all modules, then each by itself. -/
def reportDirectory (broker : Broker) (now : Milliseconds) : Broker :=
  let diagnostics := broker.diagnostics
  if isDue diagnostics.lastDirectory now broker.config.diagnostics.directoryInterval then
    let modules := broker.modules.registered
    let taken := { broker with diagnostics := { diagnostics with lastDirectory := now } }
    (taken.publishPayload (ActiveClients.ofModules broker.clock.seconds modules)).publishPayloads
      (modules.map (ClientInfo.ofModule broker.clock.seconds))
  else broker

/-- Whatever is due. -/
def report (broker : Broker) (now : Milliseconds) : Broker :=
  ((broker.reportTiming now).reportTraffic now).reportDirectory now

end Broker

end MessageBus
