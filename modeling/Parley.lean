import Parley.Conversation.Subscribe
import Parley.Main
import Parley.Proofs.Answering.Choices
import Parley.Proofs.Chat.Messages
import Parley.Proofs.Condition.Containment
import Parley.Proofs.Conversation.Coherence
import Parley.Proofs.Conversation.Frame
import Parley.Proofs.Conversation.Opening
import Parley.Proofs.Conversation.Preview
import Parley.Proofs.Conversation.Record
import Parley.Proofs.Conversation.Retry
import Parley.Proofs.Conversation.Routing
import Parley.Proofs.Conversation.Saving
import Parley.Proofs.Conversation.Subscribing
import Parley.Proofs.Conversation.Successor
import Parley.Proofs.Conversation.Wire
import Parley.Proofs.Json.Path
import Parley.Proofs.Session.Snapshot
import Parley.Proofs.Turn.Budget
import Parley.Proofs.Turn.Delegation
import Parley.Proofs.Turn.Failure
import Parley.Proofs.Turn.Redirect
import Parley.Proofs.Turn.Script
import Parley.Proofs.Variable.Element
import Parley.Proofs.Variable.Query
import Parley.Proofs.Variable.Structure
import Parley.Proofs.Webhook.Body
import Parley.Proofs.Webhook.Credentials
import Parley.Proofs.Webhook.Mapping
