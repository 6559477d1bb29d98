/-
What the program tells about itself.
-/

namespace QuorumNode.Cli

def helpLines : List String :=
  ["Smartnode daemon: wires quorum reconfiguration and staged sync into a maintenance loop",
    "",
    "Usage: smartnode [OPTIONS]",
    "",
    "Options:",
    "      --network <NETWORK>",
    "          Network to run on (main, test, dev, regtest)",
    "  -l, --log-level <LOG_LEVEL>",
    "          Set logging level (trace, debug, info, warn, error)",
    "      --log-file <LOG_FILE>",
    "          Path to the log file (optional). If not provided, logs will only go to stdout",
    "  -p, --peers <PEERS>",
    "          Peers to sync from",
    "      --masternode-count <MASTERNODE_COUNT>",
    "          Masternode population used for quorum sizing",
    "      --low-llmq-params",
    "          Use reduced LLMQ parameters",
    "      --chain-locks-quorum <CHAIN_LOCKS_QUORUM>",
    "          Devnet only: quorum type that signs chain-locks",
    "  -h, --help",
    "          Print help",
    "  -V, --version",
    "          Print version"]

def helpText : String := String.join (helpLines.map (· ++ "\n"))

def versionText : String := "smartnode-node 0.1.0\n"

end QuorumNode.Cli
