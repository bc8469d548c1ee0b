import RoleSecrets.RoleResource

/-! # The definition of role resources

A cluster has to be told of role resources before it holds any. The definition names them, says
which columns are shown of them, and gives the schema of their spec and status.
-/

namespace RoleSecrets.ResourceDefinition

def lines : List String :=
  ["apiVersion: apiextensions.k8s.io/v1",
    "kind: CustomResourceDefinition",
    "metadata:",
    "  name: awsiamroles.zalando.org",
    "spec:",
    "  group: zalando.org",
    "  names:",
    "    categories: []",
    "    kind: " ++ RoleResource.kind,
    "    plural: awsiamroles",
    "    shortNames:",
    "    - iamrole",
    "    singular: awsiamrole",
    "  scope: Namespaced",
    "  versions:",
    "  - additionalPrinterColumns:",
    "    - jsonPath: .status.roleARN",
    "      name: RoleARN",
    "      type: string",
    "    - jsonPath: .status.expiration",
    "      name: Expiration",
    "      type: string",
    "    - jsonPath: .metadata.creationTimestamp",
    "      name: Age",
    "      type: date",
    "    name: v1",
    "    schema:",
    "      openAPIV3Schema:",
    "        description: Auto-generated derived type for AwsIamRoleSpec via `CustomResource`",
    "        properties:",
    "          spec:",
    "            description: |-",
    "              Declares that credentials for a role should be delivered as a secret named",
    "              after the resource.",
    "            properties:",
    "              roleReference:",
    "                description: Role name relative to the base role ARN, or a full role ARN.",
    "                type: string",
    "              roleSessionDuration:",
    "                description: Requested session duration in seconds.",
    "                format: int64",
    "                nullable: true",
    "                type: integer",
    "            required:",
    "            - roleReference",
    "            type: object",
    "          status:",
    "            nullable: true",
    "            properties:",
    "              expiration:",
    "                format: date-time",
    "                nullable: true",
    "                type: string",
    "              observedGeneration:",
    "                format: int64",
    "                nullable: true",
    "                type: integer",
    "              roleARN:",
    "                nullable: true",
    "                type: string",
    "            type: object",
    "        required:",
    "        - spec",
    "        title: AwsIamRole",
    "        type: object",
    "    served: true",
    "    storage: true",
    "    subresources:",
    "      status: \x7b\x7d"]

/-- The definition, as a YAML document. -/
def document : String := String.join (lines.map (· ++ "\n"))

end RoleSecrets.ResourceDefinition
