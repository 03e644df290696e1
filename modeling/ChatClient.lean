import ChatClient.Commands
import ChatClient.Confirm
import ChatClient.Console
import ChatClient.Conversation
import ChatClient.Deadline
import ChatClient.Destination
import ChatClient.Farewell
import ChatClient.Provenance
import ChatClient.ReceiveBuffer
import ChatClient.Requests
import ChatClient.Retries
import ChatClient.Script
import ChatClient.Shutdown
import ChatClient.Stream
import ChatClient.Tags
import ChatClient.Termination
import ChatClient.Wakeup
