import Akson.Ext.IJson
import Akson.Contract.Binding
import Akson.Store.Migrations
import Akson.Store.Audit
import Akson.Store.Projection
import Akson.Store.TrustedTime
import Akson.Coord.Feed
import Akson.Coord.Rebinding
import Akson.Receive.Arrivals
import Akson.Receive.Contexts
import Akson.Receive.Replay
import Akson.Task.Sweep
import Akson.Receive.Rate
import Akson.Broker.Consent
import Akson.Task.Slots
import Akson.Task.Send
import Akson.Task.Policy
import Akson.Broker.Endpoint
import Akson.Broker.Routing
import Akson.Broker.Request
import Akson.Broker.Transport
import Akson.Pairing.Token
import Akson.Introduce.Imports
import Akson.Introduce.Agreement
import Akson.Introduce.Identity
import Akson.Ext.Preauth
import Akson.Introduce.Knocks
import Akson.Contract.Reads
import Akson.Worker.Inert
